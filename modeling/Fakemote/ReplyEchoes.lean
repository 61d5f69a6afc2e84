import Fakemote.CommandDispatch
import Fakemote.HostView
import Fakemote.InjectedPackets

/-! What the host reads in the events that answer its commands: the opcode, and the parameters
that the events repeat. Both sides of the wire are little-endian. -/

namespace Fakemote

open Bytes Program Ledger Transition

def littleEndian : List UInt8 → Nat
  | [] => 0
  | byte :: rest => byte.toNat + 256 * littleEndian rest

def fieldAt (data : List UInt8) (offset size : Nat) : Nat :=
  littleEndian ((data.drop offset).take size)

theorem load16_bytes {data : List UInt8} {offset : Nat} {word : UInt16}
    (loaded : Bytes.load16 data offset = some word) :
    ∃ (first : offset < data.length) (second : offset + 1 < data.length),
      word = word16 data[offset] data[offset + 1] := by
  have room := load16_room loaded
  have first : offset < data.length := by omega
  have second : offset + 1 < data.length := by omega
  simp only [Bytes.load16, List.getElem?_eq_getElem first, List.getElem?_eq_getElem second,
    Option.some.injEq] at loaded
  exact ⟨first, second, loaded.symm⟩

theorem fieldAt_word {data : List UInt8} {offset : Nat} {word : UInt16}
    (loaded : load16 data offset = .ok word) : fieldAt data offset 2 = (le16toh word).toNat := by
  obtain ⟨first, second, rfl⟩ := load16_bytes (load16_ok.mp loaded)
  rw [fieldAt, List.drop_eq_getElem_cons first, List.drop_eq_getElem_cons second]
  simp only [List.take_succ_cons, List.take_zero, littleEndian, le16toh, swap16, word16_toNat,
    lowByte_word16, highByte_word16]
  omega

theorem fieldAt_byte {data : List UInt8} {offset : Nat} {byte : UInt8}
    (loaded : load8 data offset = .ok byte) : fieldAt data offset 1 = byte.toNat := by
  obtain ⟨inside, rfl⟩ := List.getElem?_eq_some_iff.mp (load8_ok.mp loaded)
  rw [fieldAt, List.drop_eq_getElem_cons inside]
  rfl

theorem fieldAt_bdaddr {data : List UInt8} {offset : Nat} {bdaddr : BdAddr}
    (loaded : loadBdaddr data offset = .ok bdaddr) :
    fieldAt data offset 6 = littleEndian bdaddr.val := by
  unfold loadBdaddr at loaded
  split at loaded
  · rename_i front
    cases loaded
    rw [fieldAt, front]
    rfl
  · cases loaded

theorem loadBdaddr_room {data : List UInt8} {offset : Nat} {bdaddr : BdAddr}
    (loaded : loadBdaddr data offset = .ok bdaddr) : offset + 6 ≤ data.length := by
  unfold loadBdaddr at loaded
  split at loaded
  · rename_i front
    have length := congrArg List.length front
    simp only [List.length_drop, List.length_cons] at length
    omega
  · cases loaded

structure Echo where
  inEvent : Nat
  inCommand : Nat
  size : Nat

def Echo.Repeats (echo : Echo) (payload data : List UInt8) : Prop :=
  echo.inEvent + echo.size ≤ data.length ∧
    fieldAt data echo.inEvent echo.size = fieldAt payload echo.inCommand echo.size

structure ReplyEvent where
  code : UInt8
  echoes : List Echo

/-- The event has this code, and its fields have the values that the host gave. -/
structure ReplyEvent.Is (reply : ReplyEvent) (payload data : List UInt8) : Prop where
  code : load8 data 0 = .ok reply.code
  repeats : ∀ echo ∈ reply.echoes, echo.Repeats payload data

structure Answer where
  first : ReplyEvent
  opcodeAt : Nat
  rest : List ReplyEvent

def handleEcho : Echo := ⟨3, 0, 2⟩

def afterStatus (rest : List ReplyEvent) : Answer := ⟨⟨hciEventCommandStatus, []⟩, 4, rest⟩

/-- How a command is answered; the answer to an accepted connection depends on the role. -/
def answerTo (opcode : UInt16) (payload : List UInt8) : Answer :=
  if opcode = hciCmdDisconnect then afterStatus [⟨hciEventDisconCompl, [handleEcho]⟩]
  else if opcode = hciCmdAcceptCon then
    let complete : ReplyEvent := ⟨hciEventConCompl, [⟨5, 0, 6⟩]⟩
    if load8 payload 6 = .ok hciRoleMaster then
      afterStatus [⟨hciEventRoleChange, [⟨3, 0, 6⟩, ⟨9, 6, 1⟩]⟩, complete]
    else afterStatus [complete]
  else if opcode = hciCmdChangeConPacketType then
    afterStatus [⟨hciEventConPktTypeChanged, [handleEcho, ⟨5, 2, 2⟩]⟩]
  else if opcode = hciCmdAuthReq then afterStatus [⟨hciEventAuthCompl, [handleEcho]⟩]
  else if opcode = hciCmdRemoteNameReq then
    afterStatus [⟨hciEventRemoteNameReqCompl, [⟨3, 0, 6⟩]⟩]
  else if opcode = hciCmdReadRemoteFeatures then
    afterStatus [⟨hciEventReadRemoteFeaturesCompl, [handleEcho]⟩]
  else if opcode = hciCmdReadRemoteVerInfo then
    afterStatus [⟨hciEventReadRemoteVerInfoCompl, [handleEcho]⟩]
  else if opcode = hciCmdReadClockOffset then
    afterStatus [⟨hciEventReadClockOffsetCompl, [handleEcho]⟩]
  else if opcode = hciCmdSniffMode then
    afterStatus [⟨hciEventModeChange, [handleEcho, ⟨6, 2, 2⟩]⟩]
  else if opcode = hciCmdWriteLinkSupervisionTimeout then
    ⟨⟨hciEventCommandCompl, [⟨6, 0, 2⟩]⟩, 3, []⟩
  else afterStatus []

/-- The command was answered in order, and every field that repeats a parameter is right. An event
that could not be injected is missing at the end. -/
def RepliesInOrder (opcode : UInt16) (payload : List UInt8) (s t : World) : Prop :=
  let answer := answerTo opcode payload
  ∃ first rest, t.events = s.events ++ first :: rest ∧ answer.first.Is payload first ∧
    fieldAt first answer.opcodeAt 2 = opcode.toNat ∧
    List.Forall₂ (fun reply data => reply.Is payload data) (answer.rest.take rest.length) rest ∧
    (t.lostEvents = s.lostEvents → rest.length = answer.rest.length)

structure EventBytes (event eventSize : UInt8) (fields data : List UInt8) : Prop where
  front : ∃ rest, data = [event, eventSize] ++ (fields ++ rest)
  length : data.length = hciEventHdrSize + eventSize.toNat

theorem injectHciEvent_bytes {s t : World} {event eventSize : UInt8} {fields : List UInt8}
    {ret : IosResult} (run : injectHciEvent event eventSize fields s = .ok (ret, t)) :
    t.core = s.core ∧
      ((ret = .iosOk ∧ t.lostEvents = s.lostEvents ∧ ∃ data, t.events = s.events ++ [data] ∧
          EventBytes event eventSize fields data) ∨
        ret ≠ .iosOk ∧ t.lostEvents = s.lostEvents ++ [event] ∧ t.events = s.events) := by
  obtain ⟨rest, result, size⟩ := injectHciEvent_ledger run
  have core : t.core = (s.ledger.place event ([event, eventSize] ++ fields ++ rest)
      (ret = .iosOk)).core := congrArg Ledger.core result
  have lost : t.lostEvents = (s.ledger.place event ([event, eventSize] ++ fields ++ rest)
      (ret = .iosOk)).lost := congrArg Ledger.lost result
  have events : t.events = (s.ledger.place event ([event, eventSize] ++ fields ++ rest)
      (ret = .iosOk)).events := congrArg Ledger.events result
  by_cases ok : ret = .iosOk
  · simp only [place, ok, decide_true, if_true] at core lost events
    refine ⟨core, Or.inl ⟨ok, lost, _, events, ⟨rest, by rw [List.append_assoc]⟩, ?_⟩⟩
    have whole := size ok
    simp only [List.length_append, List.length_cons, List.length_nil, hciEventHdrSize]
    omega
  · simp only [place, ok, decide_false, Bool.false_eq_true, if_false] at core lost events
    exact ⟨core, Or.inr ⟨ok, lost, events⟩⟩

theorem assertedEvent_bytes {s t : World} {event eventSize : UInt8} {fields : List UInt8}
    {u : Unit} (run : (injectHciEvent event eventSize fields >>= assertInjected) s = .ok (u, t)) :
    t.core = s.core ∧ t.lostEvents = s.lostEvents ∧
      ∃ data, t.events = s.events ++ [data] ∧ EventBytes event eventSize fields data := by
  obtain ⟨ret, s1, injected, asserted⟩ := bind_ok.mp run
  obtain ⟨ok, rfl⟩ := assertInjected_ok asserted
  obtain ⟨core, ⟨-, lost, placed⟩ | ⟨failed, -⟩⟩ := injectHciEvent_bytes injected
  · exact ⟨core, lost, placed⟩
  · exact absurd ok failed

theorem commandStatus_is {opcode : UInt16} {payload data : List UInt8}
    (bytes : EventBytes hciEventCommandStatus 4 ([0, 1] ++ bytes16 (htole16 opcode)) data) :
    (ReplyEvent.mk hciEventCommandStatus []).Is payload data ∧
      fieldAt data 4 2 = opcode.toNat := by
  obtain ⟨⟨rest, rfl⟩, -⟩ := bytes
  refine ⟨⟨rfl, fun echo listed => by cases listed⟩, ?_⟩
  rw [fieldAt_word (load16_of_bytes rfl rfl : load16 _ 4 = .ok (htole16 opcode)),
    le16toh_htole16]

theorem repeats_word {inEvent inCommand : Nat} {payload data : List UInt8} {word : UInt16}
    (sent : load16 data inEvent = .ok word) (given : load16 payload inCommand = .ok word) :
    (Echo.mk inEvent inCommand 2).Repeats payload data := by
  refine ⟨load16_room (load16_ok.mp sent), ?_⟩
  rw [fieldAt_word sent, fieldAt_word given]

theorem repeats_byte {inEvent inCommand : Nat} {payload data : List UInt8} {byte : UInt8}
    (sent : load8 data inEvent = .ok byte) (given : load8 payload inCommand = .ok byte) :
    (Echo.mk inEvent inCommand 1).Repeats payload data := by
  refine ⟨(List.getElem?_eq_some_iff.mp (load8_ok.mp sent)).1, ?_⟩
  rw [fieldAt_byte sent, fieldAt_byte given]

theorem repeats_bdaddr {inEvent inCommand : Nat} {payload data : List UInt8} {bdaddr : BdAddr}
    (sent : loadBdaddr data inEvent = .ok bdaddr)
    (given : loadBdaddr payload inCommand = .ok bdaddr) :
    (Echo.mk inEvent inCommand 6).Repeats payload data := by
  refine ⟨loadBdaddr_room sent, ?_⟩
  rw [fieldAt_bdaddr sent, fieldAt_bdaddr given]

theorem EventBytes.code {event eventSize : UInt8} {fields data : List UInt8}
    (bytes : EventBytes event eventSize fields data) : load8 data 0 = .ok event := by
  obtain ⟨⟨rest, rfl⟩, -⟩ := bytes
  rfl

theorem EventBytes.byte {event eventSize : UInt8} {fields data : List UInt8}
    (bytes : EventBytes event eventSize fields data) (front : List UInt8) {more : List UInt8}
    {byte : UInt8} (shape : fields = front ++ byte :: more) :
    load8 data (hciEventHdrSize + front.length) = .ok byte := by
  obtain ⟨⟨rest, rfl⟩, -⟩ := bytes
  have assoc : [event, eventSize] ++ (fields ++ rest) =
      [event, eventSize] ++ front ++ byte :: (more ++ rest) := by
    rw [shape]
    simp only [List.append_assoc, List.cons_append]
  have place : hciEventHdrSize + front.length = ([event, eventSize] ++ front).length := by
    rw [List.length_append]
    rfl
  rw [assoc, place, load8_ok, List.getElem?_append_right (Nat.le_refl _), Nat.sub_self]
  rfl

theorem EventBytes.word {event eventSize : UInt8} {fields data : List UInt8}
    (bytes : EventBytes event eventSize fields data) (front : List UInt8) {more : List UInt8}
    {word : UInt16} (shape : fields = front ++ (bytes16 word ++ more)) :
    load16 data (hciEventHdrSize + front.length) = .ok word := by
  obtain ⟨⟨rest, rfl⟩, -⟩ := bytes
  have found := load16_append ([event, eventSize] ++ front) (more ++ rest) word
  have assoc : [event, eventSize] ++ (fields ++ rest) =
      [event, eventSize] ++ front ++ (bytes16 word ++ (more ++ rest)) := by
    rw [shape]
    simp only [List.append_assoc]
  rw [List.length_append] at found
  rw [assoc]
  exact found

theorem EventBytes.bdaddr {event eventSize : UInt8} {fields data : List UInt8}
    (bytes : EventBytes event eventSize fields data) (front : List UInt8) {more : List UInt8}
    {bdaddr : BdAddr} (shape : fields = front ++ (bdaddr.val ++ more)) :
    loadBdaddr data (hciEventHdrSize + front.length) = .ok bdaddr := by
  obtain ⟨⟨rest, rfl⟩, -⟩ := bytes
  have found := loadBdaddr_append ([event, eventSize] ++ front) (more ++ rest) bdaddr
  have assoc : [event, eventSize] ++ (fields ++ rest) =
      [event, eventSize] ++ front ++ (bdaddr.val ++ (more ++ rest)) := by
    rw [shape]
    simp only [List.append_assoc]
  rw [List.length_append] at found
  rw [assoc]
  exact found

theorem EventBytes.echoes {event eventSize : UInt8} {fields data payload : List UInt8}
    (bytes : EventBytes event eventSize fields data) (front : List UInt8) {more : List UInt8}
    {word : UInt16} {inCommand : Nat} (given : load16 payload inCommand = .ok word)
    (shape : fields = front ++ (bytes16 (htole16 (le16toh word)) ++ more)) :
    (Echo.mk (hciEventHdrSize + front.length) inCommand 2).Repeats payload data := by
  rw [htole16_le16toh] at shape
  exact repeats_word (bytes.word front shape) given

theorem EventBytes.repeatsHandle {event eventSize status : UInt8} {data payload more : List UInt8}
    {word : UInt16} (given : load16 payload 0 = .ok word)
    (bytes : EventBytes event eventSize ([status] ++ (bytes16 (htole16 (le16toh word)) ++ more))
      data) : (ReplyEvent.mk event [handleEcho]).Is payload data := by
  refine ⟨bytes.code, fun echo listed => ?_⟩
  rw [List.mem_singleton.mp listed]
  exact bytes.echoes [status] given rfl

theorem answerForHandle_ok {s t : World} {handle : UInt16} {answer : M Unit}
    (run : answerForHandle handle answer s = .ok (true, t)) : answer s = .ok ((), t) := by
  obtain ⟨_, _, got, run⟩ := bind_ok.mp run
  cases got
  cases found : getFakeWiimoteForHciConHandle s.core handle with
  | none =>
      simp only [found] at run
      cases run
  | some w =>
      simp only [found] at run
      obtain ⟨_, _, answered, run⟩ := bind_ok.mp run
      cases run
      exact answered

theorem answerWithStatus_bytes {s t : World} {opcode : UInt16} {event eventSize : UInt8}
    {fields : List UInt8} {u : Unit}
    (run : answerWithStatus opcode (injectHciEvent event eventSize fields) s = .ok (u, t)) :
    ∃ status data, t.events = s.events ++ [status, data] ∧
      EventBytes hciEventCommandStatus 4 ([0, 1] ++ bytes16 (htole16 opcode)) status ∧
      EventBytes event eventSize fields data := by
  have split : answerWithStatus opcode (injectHciEvent event eventSize fields) =
      (injectHciEventCommandStatus opcode >>= assertInjected) >>= fun _ =>
        injectHciEvent event eventSize fields >>= assertInjected := by
    unfold answerWithStatus
    rw [bind_assoc]
  rw [split] at run
  obtain ⟨_, s1, first, second⟩ := bind_ok.mp run
  obtain ⟨-, -, status, placed, statusBytes⟩ := assertedEvent_bytes first
  obtain ⟨-, -, data, more, bytes⟩ := assertedEvent_bytes second
  refine ⟨status, data, ?_, statusBytes, bytes⟩
  rw [more, placed, List.append_assoc, List.singleton_append]

/-- Whether such an answer is right is up to its second event. -/
theorem repliesInOrder_two {opcode : UInt16} {payload status data : List UInt8} {s t : World}
    {reply : ReplyEvent} (expected : answerTo opcode payload = afterStatus [reply])
    (events : t.events = s.events ++ [status, data])
    (bytes : EventBytes hciEventCommandStatus 4 ([0, 1] ++ bytes16 (htole16 opcode)) status) :
    RepliesInOrder opcode payload s t ↔ reply.Is payload data := by
  unfold RepliesInOrder
  rw [expected]
  constructor
  · rintro ⟨first, rest, placed, -, -, right, -⟩
    rw [events, List.append_cancel_left_eq] at placed
    cases placed
    cases right with
    | cons head tail => exact head
  · intro right
    have informed : (ReplyEvent.mk hciEventCommandStatus []).Is payload status ∧
        fieldAt status 4 2 = opcode.toNat := commandStatus_is bytes
    exact ⟨status, [data], events, informed.1, informed.2, .cons right .nil, fun _ => rfl⟩

theorem changeConPacketType_replies {s t : World} {payload : List UInt8}
    (run : handleChangeConPacketType payload s = .ok (true, t)) :
    RepliesInOrder hciCmdChangeConPacketType payload s t := by
  obtain ⟨handle, _, first, run⟩ := bind_ok.mp run
  obtain ⟨handleAt, rfl⟩ := lift_ok.mp first
  obtain ⟨pktType, _, second, run⟩ := bind_ok.mp (answerForHandle_ok run)
  obtain ⟨typeAt, rfl⟩ := lift_ok.mp second
  obtain ⟨status, data, events, statusBytes, bytes⟩ := answerWithStatus_bytes run
  refine (repliesInOrder_two rfl events statusBytes).mpr ⟨bytes.code, ?_⟩
  intro echo listed
  rcases List.mem_cons.mp listed with rfl | listed
  · exact bytes.echoes [0] handleAt rfl
  · rw [List.mem_singleton.mp listed]
    exact bytes.echoes ([0] ++ bytes16 (htole16 (le16toh handle))) typeAt rfl

theorem handleOnly_replies {s t : World} {opcode : UInt16} {payload : List UInt8}
    {event eventSize : UInt8} {fields : UInt16 → List UInt8}
    (expected : answerTo opcode payload = afterStatus [⟨event, [handleEcho]⟩])
    (shape : ∀ handle, ∃ more, fields handle =
      [0] ++ (bytes16 (htole16 (le16toh handle)) ++ more))
    (run : (liftM (load16 payload 0) >>= fun handle => answerForHandle (le16toh handle)
      (answerWithStatus opcode (injectHciEvent event eventSize (fields handle)))) s =
        .ok (true, t)) : RepliesInOrder opcode payload s t := by
  obtain ⟨handle, _, first, run⟩ := bind_ok.mp run
  obtain ⟨handleAt, rfl⟩ := lift_ok.mp first
  obtain ⟨status, data, events, statusBytes, bytes⟩ :=
    answerWithStatus_bytes (answerForHandle_ok run)
  obtain ⟨more, fields⟩ := shape handle
  rw [fields] at bytes
  exact (repliesInOrder_two expected events statusBytes).mpr (bytes.repeatsHandle handleAt)

theorem remoteNameReq_replies {s t : World} {payload : List UInt8}
    (run : handleRemoteNameReq payload s = .ok (true, t)) :
    RepliesInOrder hciCmdRemoteNameReq payload s t := by
  obtain ⟨bdaddr, _, first, run⟩ := bind_ok.mp run
  obtain ⟨bdaddrAt, rfl⟩ := lift_ok.mp first
  obtain ⟨_, _, got, run⟩ := bind_ok.mp run
  cases got
  cases found : doesBdaddrBelongToFakeWiimote s.core bdaddr with
  | none =>
      simp only [found] at run
      cases run
  | some w =>
      simp only [found] at run
      obtain ⟨_, _, answered, run⟩ := bind_ok.mp run
      cases run
      obtain ⟨status, data, events, statusBytes, bytes⟩ := answerWithStatus_bytes answered
      refine (repliesInOrder_two rfl events statusBytes).mpr ⟨bytes.code, ?_⟩
      intro echo listed
      rw [List.mem_singleton.mp listed]
      exact repeats_bdaddr (bytes.bdaddr [0] (List.append_assoc _ _ _)) bdaddrAt

/-- Mode Change repeats the interval exactly when its two bytes are the same. -/
theorem sniffMode_replies {s t : World} {payload : List UInt8}
    (run : handleSniffMode payload s = .ok (true, t)) :
    ∃ interval data, load16 payload 2 = .ok interval ∧
      (∃ status, t.events = s.events ++ [status, data]) ∧ fieldAt data 6 2 = interval.toNat ∧
      (RepliesInOrder hciCmdSniffMode payload s t ↔ interval.toNat = fieldAt payload 2 2) := by
  obtain ⟨handle, _, first, run⟩ := bind_ok.mp run
  obtain ⟨handleAt, rfl⟩ := lift_ok.mp first
  obtain ⟨interval, _, second, run⟩ := bind_ok.mp (answerForHandle_ok run)
  obtain ⟨intervalAt, rfl⟩ := lift_ok.mp second
  obtain ⟨status, data, events, statusBytes, bytes⟩ := answerWithStatus_bytes run
  have sent : load16 data 6 = .ok (htole16 interval) :=
    bytes.word ([0] ++ bytes16 (htole16 (le16toh handle)) ++ [0x02]) rfl
  have decoded : fieldAt data 6 2 = interval.toNat := by
    rw [fieldAt_word sent, le16toh_htole16]
  refine ⟨interval, data, intervalAt, ⟨status, events⟩, decoded, ?_⟩
  rw [repliesInOrder_two rfl events statusBytes]
  constructor
  · intro right
    have repeated := (right.repeats ⟨6, 2, 2⟩ (.tail _ (.head _))).2
    exact decoded.symm.trans repeated
  · intro same
    refine ⟨bytes.code, fun echo listed => ?_⟩
    rcases List.mem_cons.mp listed with rfl | listed
    · exact bytes.echoes [0] handleAt rfl
    · rw [List.mem_singleton.mp listed]
      exact ⟨load16_room (load16_ok.mp sent), decoded.trans same⟩

theorem writeLinkPolicySettings_replies {s t : World} {payload : List UInt8}
    (run : handleWriteLinkPolicySettings payload s = .ok (true, t)) :
    RepliesInOrder hciCmdWriteLinkPolicySettings payload s t := by
  obtain ⟨handle, _, first, run⟩ := bind_ok.mp run
  obtain ⟨-, rfl⟩ := lift_ok.mp first
  obtain ⟨-, -, status, events, bytes⟩ := assertedEvent_bytes (answerForHandle_ok run)
  obtain ⟨is, opcode⟩ := commandStatus_is bytes
  exact ⟨status, [], events, is, opcode, .nil, fun _ => rfl⟩

theorem writeLinkSupervisionTimeout_replies {s t : World} {payload : List UInt8}
    (run : handleWriteLinkSupervisionTimeout payload s = .ok (true, t)) :
    RepliesInOrder hciCmdWriteLinkSupervisionTimeout payload s t := by
  obtain ⟨handle, _, first, run⟩ := bind_ok.mp run
  obtain ⟨handleAt, rfl⟩ := lift_ok.mp first
  obtain ⟨-, -, data, events, bytes⟩ := assertedEvent_bytes (answerForHandle_ok run)
  have opcode : load16 data 3 = .ok (htole16 hciCmdWriteLinkSupervisionTimeout) :=
    bytes.word [1] rfl
  have shape : [1] ++ bytes16 (htole16 hciCmdWriteLinkSupervisionTimeout) ++
      ([0] ++ bytes16 handle) = [1] ++ bytes16 (htole16 hciCmdWriteLinkSupervisionTimeout) ++ [0] ++
        (bytes16 handle ++ []) := by
    rw [List.append_nil, List.append_assoc _ [0]]
  have sent : load16 data 6 = .ok handle := bytes.word _ shape
  refine ⟨data, [], events, ⟨bytes.code, ?_⟩, ?_, .nil, fun _ => rfl⟩
  · intro echo listed
    rw [List.mem_singleton.mp listed]
    exact repeats_word sent handleAt
  · exact (fieldAt_word opcode).trans (congrArg UInt16.toNat (le16toh_htole16 _))

theorem fakeWiimoteDisconnect_events {s t : World} {w : WiimoteId} {ret : IosResult}
    (run : fakeWiimoteDisconnect w s = .ok (ret, t)) :
    ((s.core.links w).basebandState = .complete ∧
      ((t.events = s.events ++ [disconComplEvent (s.core.links w).hciConHandle] ∧
          t.lostEvents = s.lostEvents) ∨
        t.events = s.events ∧ t.lostEvents = s.lostEvents ++ [hciEventDisconCompl])) ∨
    (s.core.links w).basebandState ≠ .complete ∧ t.events = s.events ∧
      t.lostEvents = s.lostEvents := by
  obtain ⟨placed, result⟩ := fakeWiimoteDisconnect_ledger run
  have events : t.events = (s.ledger.disconnect w placed).events := congrArg Ledger.events result
  have lost : t.lostEvents = (s.ledger.disconnect w placed).lost := congrArg Ledger.lost result
  have kept (a : Ledger) (d : Option SlotId) :
      (a.release d).events = a.events ∧ (a.release d).lost = a.lost := by
    cases d with
    | none => exact ⟨rfl, rfl⟩
    | some d => exact ⟨rfl, rfl⟩
  unfold Ledger.disconnect at events lost
  by_cases complete : (s.core.links w).basebandState = .complete
  · rw [ledger_core, if_pos complete] at events lost
    refine Or.inl ⟨complete, ?_⟩
    cases placed with
    | true =>
        left
        rw [events, lost]
        simp only [place, if_true, kept]
        exact ⟨rfl, rfl⟩
    | false =>
        right
        rw [events, lost]
        simp only [place, Bool.false_eq_true, if_false, kept]
        exact ⟨rfl, rfl⟩
  · rw [ledger_core, if_neg complete, (kept _ _).1] at events
    rw [ledger_core, if_neg complete, (kept _ _).2] at lost
    exact Or.inr ⟨complete, events, lost⟩

theorem disconnect_replies {s t : World} {payload : List UInt8}
    (run : handleDisconnect payload s = .ok (true, t)) :
    RepliesInOrder hciCmdDisconnect payload s t := by
  obtain ⟨handle, _, first, run⟩ := bind_ok.mp run
  obtain ⟨handleAt, rfl⟩ := lift_ok.mp first
  obtain ⟨_, _, got, run⟩ := bind_ok.mp run
  cases got
  cases found : getFakeWiimoteForHciConHandle s.core (le16toh handle) with
  | none =>
      simp only [found] at run
      cases run
  | some w =>
      simp only [found] at run
      obtain ⟨connected, handle_⟩ := getFakeWiimote_connected found
      obtain ⟨ret, s1, injected, run⟩ := bind_ok.mp run
      obtain ⟨_, _, asserted, run⟩ := bind_ok.mp run
      obtain ⟨core, lost, status, events, bytes⟩ :=
        assertedEvent_bytes (bind_ok.mpr ⟨ret, s1, injected, asserted⟩)
      obtain ⟨-, rfl⟩ := assertInjected_ok asserted
      obtain ⟨_, _, disconnected, run⟩ := bind_ok.mp run
      cases run
      have complete : (s1.core.links w).basebandState = .complete := by
        rw [core]
        exact of_decide_eq_true (Bool.and_eq_true_iff.mp connected).2
      obtain ⟨is, opcode⟩ := commandStatus_is bytes
      rcases fakeWiimoteDisconnect_events disconnected with
        ⟨-, ⟨more, kept⟩ | ⟨more, gone⟩⟩ | ⟨never, -⟩
      · rw [core, handle_, events, List.append_assoc, List.singleton_append] at more
        have whole : EventBytes hciEventDisconCompl 4
            ([0] ++ (bytes16 (htole16 (le16toh handle)) ++ [0x13]))
            (disconComplEvent (le16toh handle)) := ⟨⟨[], rfl⟩, rfl⟩
        exact ⟨status, _, more, is, opcode, .cons (whole.repeatsHandle handleAt) .nil,
          fun _ => rfl⟩
      · refine ⟨status, [], more.trans events, is, opcode, .nil, fun same => ?_⟩
        rw [gone, lost] at same
        have length := congrArg List.length same
        simp at length
      · exact absurd complete never

theorem rejectCon_replies {s t : World} {payload : List UInt8}
    (run : handleRejectCon payload s = .ok (true, t)) :
    ¬ RepliesInOrder hciCmdRejectCon payload s t := by
  obtain ⟨bdaddr, _, first, run⟩ := bind_ok.mp run
  obtain ⟨-, rfl⟩ := lift_ok.mp first
  obtain ⟨_, _, got, run⟩ := bind_ok.mp run
  cases got
  cases found : doesBdaddrBelongToFakeWiimote s.core bdaddr with
  | none =>
      simp only [found] at run
      cases run
  | some w =>
      simp only [found] at run
      obtain ⟨_, _, disconnected, run⟩ := bind_ok.mp run
      cases run
      rintro ⟨first, rest, placed, is, -⟩
      have code : load8 first 0 = .ok hciEventCommandStatus := is.code
      have none (events : t.events = s.events) : False := by
        have length := congrArg List.length (events.symm.trans placed)
        rw [List.length_append, List.length_cons] at length
        omega
      rcases fakeWiimoteDisconnect_events disconnected with
        ⟨-, ⟨events, -⟩ | ⟨events, -⟩⟩ | ⟨-, events, -⟩
      · rw [events, List.append_cancel_left_eq] at placed
        cases placed
        cases code
      · exact none events
      · exact none events

theorem acceptCon_events {s t : World} {w : WiimoteId} {role : UInt8} {u : Unit}
    (run : fakeWiimoteHandleHciCmdAcceptCon w role s = .ok (u, t)) :
    ∃ status between data, t.events = s.events ++ status :: (between ++ [data]) ∧
      t.lostEvents = s.lostEvents ∧
      EventBytes hciEventCommandStatus 4 ([0, 1] ++ bytes16 (htole16 hciCmdAcceptCon)) status ∧
      (∃ handle, EventBytes hciEventConCompl 11 ([0] ++ bytes16 (htole16 handle) ++
        (s.core.links w).bdaddr.val ++ [hciLinkAcl, hciEncryptionModeNone]) data) ∧
      ((role = hciRoleMaster ∧ ∃ change, between = [change] ∧ EventBytes hciEventRoleChange 8
          ([0] ++ (s.core.links w).bdaddr.val ++ [hciRoleMaster]) change) ∨
        role ≠ hciRoleMaster ∧ between = []) := by
  obtain ⟨ret, s1, injected, run⟩ := bind_ok.mp run
  obtain ⟨_, _, asserted, run⟩ := bind_ok.mp run
  obtain ⟨core, lost, status, placed, statusBytes⟩ :=
    assertedEvent_bytes (bind_ok.mpr ⟨ret, s1, injected, asserted⟩)
  obtain ⟨-, rfl⟩ := assertInjected_ok asserted
  obtain ⟨_, _, got, run⟩ := bind_ok.mp run
  cases got
  obtain ⟨_, s2, drawn, run⟩ := bind_ok.mp run
  obtain ⟨_, s3, completed, run⟩ := bind_ok.mp run
  obtain ⟨_, s4, linking, run⟩ := bind_ok.mp run
  have ledger := withPeriphery_ledger (fun _ => calm_modifySession _ _) linking
  rw [modifyCore_ledger completed, modifyCore_ledger drawn] at ledger
  have events : s4.events = s1.events := congrArg Ledger.events ledger
  have lost4 : s4.lostEvents = s1.lostEvents := congrArg Ledger.lost ledger
  obtain ⟨link, _, got, run⟩ := bind_ok.mp run
  obtain ⟨same, rfl⟩ := getLink_ok got
  have own : link.bdaddr = (s.core.links w).bdaddr := by
    have address := congrArg (fun a => (a.core.links w).bdaddr) ledger
    simp only [ledger_core, Core.setLink, Function.update_self] at address
    rw [same, ledger_core, address, core]
  obtain ⟨_, s5, changed, run⟩ := bind_ok.mp run
  obtain ⟨-, lost6, data, last, bytes⟩ := assertedEvent_bytes run
  rw [own] at bytes
  rcases ite_run changed with ⟨master, changed⟩ | ⟨other, changed⟩
  · obtain ⟨-, lost5, change, next, changeBytes⟩ := assertedEvent_bytes changed
    rw [own] at changeBytes
    refine ⟨status, [change], data, ?_, ?_, statusBytes, ⟨_, bytes⟩,
      Or.inl ⟨master, change, rfl, changeBytes⟩⟩
    · rw [last, next, events, placed]
      simp
    · rw [lost6, lost5, lost4, lost]
  · cases changed
    refine ⟨status, [], data, ?_, ?_, statusBytes, ⟨_, bytes⟩, Or.inr ⟨other, rfl⟩⟩
    · rw [last, events, placed]
      simp
    · rw [lost6, lost4, lost]

theorem acceptCon_replies {s t : World} {payload : List UInt8}
    (run : handleAcceptCon payload s = .ok (true, t)) :
    RepliesInOrder hciCmdAcceptCon payload s t := by
  obtain ⟨bdaddr, _, first, run⟩ := bind_ok.mp run
  obtain ⟨bdaddrAt, rfl⟩ := lift_ok.mp first
  obtain ⟨role, _, second, run⟩ := bind_ok.mp run
  obtain ⟨roleAt, rfl⟩ := lift_ok.mp second
  obtain ⟨_, _, got, run⟩ := bind_ok.mp run
  cases got
  cases found : doesBdaddrBelongToFakeWiimote s.core bdaddr with
  | none =>
      simp only [found] at run
      cases run
  | some w =>
      simp only [found] at run
      have own : bdaddr = (s.core.links w).bdaddr := by
        simpa using List.find?_some found
      rw [own] at bdaddrAt
      obtain ⟨_, _, accepted, run⟩ := bind_ok.mp run
      cases run
      obtain ⟨status, between, data, events, lost, statusBytes, ⟨handle, bytes⟩, changed⟩ :=
        acceptCon_events accepted
      obtain ⟨is, opcode⟩ := commandStatus_is statusBytes
      have complete : (ReplyEvent.mk hciEventConCompl [⟨5, 0, 6⟩]).Is payload data := by
        refine ⟨bytes.code, fun echo listed => ?_⟩
        rw [List.mem_singleton.mp listed]
        exact repeats_bdaddr (bytes.bdaddr ([0] ++ bytes16 (htole16 handle))
          (List.append_assoc _ _ _)) bdaddrAt
      rcases changed with ⟨master, change, rfl, changeBytes⟩ | ⟨other, rfl⟩
      · have expected : answerTo hciCmdAcceptCon payload = afterStatus
            [⟨hciEventRoleChange, [⟨3, 0, 6⟩, ⟨9, 6, 1⟩]⟩, ⟨hciEventConCompl, [⟨5, 0, 6⟩]⟩] := by
          have role_ : load8 payload 6 = .ok hciRoleMaster := by rw [roleAt, master]
          exact if_pos role_
        have changeIs : (ReplyEvent.mk hciEventRoleChange [⟨3, 0, 6⟩, ⟨9, 6, 1⟩]).Is payload
            change := by
          refine ⟨changeBytes.code, fun echo listed => ?_⟩
          rcases List.mem_cons.mp listed with rfl | listed
          · exact repeats_bdaddr (changeBytes.bdaddr [0] (List.append_assoc _ _ _)) bdaddrAt
          · rw [List.mem_singleton.mp listed]
            have sent := changeBytes.byte ([0] ++ (s.core.links w).bdaddr.val) rfl
            rw [List.length_append, (s.core.links w).bdaddr.property, ← master] at sent
            exact repeats_byte sent roleAt
        unfold RepliesInOrder
        rw [expected]
        exact ⟨status, [change, data], events, is, opcode, .cons changeIs (.cons complete .nil),
          fun _ => rfl⟩
      · have expected : answerTo hciCmdAcceptCon payload =
            afterStatus [⟨hciEventConCompl, [⟨5, 0, 6⟩]⟩] := by
          have role_ : ¬ load8 payload 6 = .ok hciRoleMaster := by
            rw [roleAt]
            exact fun same => other (Except.ok.inj same)
          exact if_neg role_
        unfold RepliesInOrder
        rw [expected]
        exact ⟨status, [data], events, is, opcode, .cons complete .nil, fun _ => rfl⟩

/-- This command always goes on to the controller. -/
theorem readStoredLinkKey_forwarded (payload : List UInt8) (s t : World) :
    handleReadStoredLinkKey payload s ≠ .ok (true, t) := by
  intro run
  obtain ⟨bdaddr, _, -, run⟩ := bind_ok.mp run
  obtain ⟨readAll, _, -, run⟩ := bind_ok.mp run
  obtain ⟨_, _, -, run⟩ := bind_ok.mp run
  rcases ite_run run with ⟨-, run⟩ | ⟨-, run⟩
  · obtain ⟨_, _, -, run⟩ := bind_ok.mp run
    cases run
  · rcases ite_run run with ⟨-, run⟩ | ⟨-, run⟩
    · cases run
    · cases run

def swappedInterval (payload : List UInt8) : Nat :=
  littleEndian ((payload.drop 2).take 2).reverse

/-- The interval of a Mode Change event is in the range that the host asked for. -/
def IntervalInRange (payload : List UInt8) (s t : World) : Prop :=
  ∃ status data, t.events = s.events ++ [status, data] ∧
    fieldAt payload 4 2 ≤ fieldAt data 6 2 ∧ fieldAt data 6 2 ≤ fieldAt payload 2 2

theorem swappedInterval_eq {payload : List UInt8} {word : UInt16}
    (loaded : load16 payload 2 = .ok word) : swappedInterval payload = word.toNat := by
  obtain ⟨first, second, rfl⟩ := load16_bytes (load16_ok.mp loaded)
  rw [swappedInterval, List.drop_eq_getElem_cons first, List.drop_eq_getElem_cons second]
  simp only [List.take_succ_cons, List.take_zero, List.reverse_cons, List.reverse_nil,
    List.nil_append, List.cons_append, littleEndian, word16_toNat]
  omega

theorem sniffMode_iff {s t : World} {payload : List UInt8}
    (run : handleSniffMode payload s = .ok (true, t)) :
    (RepliesInOrder hciCmdSniffMode payload s t ↔
      swappedInterval payload = fieldAt payload 2 2) ∧
    (IntervalInRange payload s t ↔ fieldAt payload 4 2 ≤ swappedInterval payload ∧
      swappedInterval payload ≤ fieldAt payload 2 2) := by
  obtain ⟨interval, data, given, ⟨status, events⟩, decoded, replies⟩ := sniffMode_replies run
  rw [replies, swappedInterval_eq given]
  refine ⟨Iff.rfl, ?_⟩
  rw [← decoded]
  constructor
  · rintro ⟨first, second, placed, range⟩
    rw [events, List.append_cancel_left_eq] at placed
    cases placed
    exact range
  · intro range
    exact ⟨status, data, events, range⟩

/-- The commands are answered in order by events that repeat what the host gave, except for the
interval of a Sniff Mode command, which is swapped once only, and a rejected connection. -/
theorem replies_in_order_iff {opcode : UInt16} {payload : List UInt8} {s t : World}
    (run : fakeWiimoteMgrHandleHciCmdFromHost opcode payload s = .ok (true, t)) :
    (RepliesInOrder opcode payload s t ↔ opcode ≠ hciCmdRejectCon ∧
      (opcode = hciCmdSniffMode → swappedInterval payload = fieldAt payload 2 2)) ∧
    (opcode = hciCmdSniffMode → (IntervalInRange payload s t ↔
      fieldAt payload 4 2 ≤ swappedInterval payload ∧
        swappedInterval payload ≤ fieldAt payload 2 2)) := by
  have good (other : opcode ≠ hciCmdRejectCon) (awake : opcode ≠ hciCmdSniffMode)
      (right : RepliesInOrder opcode payload s t) : (RepliesInOrder opcode payload s t ↔
        opcode ≠ hciCmdRejectCon ∧
          (opcode = hciCmdSniffMode → swappedInterval payload = fieldAt payload 2 2)) ∧
      (opcode = hciCmdSniffMode → (IntervalInRange payload s t ↔
        fieldAt payload 4 2 ≤ swappedInterval payload ∧
          swappedInterval payload ≤ fieldAt payload 2 2)) :=
    ⟨⟨fun _ => ⟨other, fun same => absurd same awake⟩, fun _ => right⟩,
      fun same => absurd same awake⟩
  unfold fakeWiimoteMgrHandleHciCmdFromHost at run
  rcases ite_run run with ⟨rfl, run⟩ | ⟨-, run⟩
  · exact good (by decide) (by decide) (disconnect_replies run)
  rcases ite_run run with ⟨rfl, run⟩ | ⟨-, run⟩
  · exact good (by decide) (by decide) (acceptCon_replies run)
  rcases ite_run run with ⟨rfl, run⟩ | ⟨reject, run⟩
  · refine ⟨⟨fun right => absurd right (rejectCon_replies run), fun both => ?_⟩, ?_⟩
    · exact absurd rfl both.1
    · exact fun same => absurd same (by decide)
  rcases ite_run run with ⟨rfl, run⟩ | ⟨-, run⟩
  · exact good (by decide) (by decide) (changeConPacketType_replies run)
  rcases ite_run run with ⟨rfl, run⟩ | ⟨-, run⟩
  · exact good (by decide) (by decide) (handleOnly_replies rfl (fun _ => ⟨[], rfl⟩) run)
  rcases ite_run run with ⟨rfl, run⟩ | ⟨-, run⟩
  · exact good (by decide) (by decide) (remoteNameReq_replies run)
  rcases ite_run run with ⟨rfl, run⟩ | ⟨-, run⟩
  · exact good (by decide) (by decide) (handleOnly_replies rfl
      (fun _ => ⟨wiimoteRemoteFeatures, List.append_assoc _ _ _⟩) run)
  rcases ite_run run with ⟨rfl, run⟩ | ⟨-, run⟩
  · exact good (by decide) (by decide) (handleOnly_replies rfl
      (fun _ => ⟨[wiimoteLmpVersion] ++ bytes16 (htole16 wiimoteManufacturerId) ++
        bytes16 (htole16 wiimoteLmpSubversion), rfl⟩) run)
  rcases ite_run run with ⟨rfl, run⟩ | ⟨-, run⟩
  · exact good (by decide) (by decide) (handleOnly_replies rfl
      (fun _ => ⟨bytes16 (htole16 0x3818), List.append_assoc _ _ _⟩) run)
  rcases ite_run run with ⟨rfl, run⟩ | ⟨awake, run⟩
  · obtain ⟨order, range⟩ := sniffMode_iff run
    exact ⟨order.trans ⟨fun same => ⟨by decide, fun _ => same⟩, fun both => both.2 rfl⟩,
      fun _ => range⟩
  rcases ite_run run with ⟨rfl, run⟩ | ⟨-, run⟩
  · exact good (by decide) (by decide) (writeLinkPolicySettings_replies run)
  rcases ite_run run with ⟨-, run⟩ | ⟨-, run⟩
  · obtain ⟨_, _, -, run⟩ := bind_ok.mp run
    obtain ⟨_, _, -, run⟩ := bind_ok.mp run
    cases run
  rcases ite_run run with ⟨-, run⟩ | ⟨-, run⟩
  · exact absurd run (readStoredLinkKey_forwarded payload s t)
  rcases ite_run run with ⟨rfl, run⟩ | ⟨-, run⟩
  · exact good (by decide) (by decide) (writeLinkSupervisionTimeout_replies run)
  cases run

/-- The first fake Wiimote is connected with handle 0; its packet types are changed. -/
theorem replies_in_order_iff_packet_type :
    ∃ s t, Run .lenient anyInput s ∧ getFakeWiimoteForHciConHandle s.core 0 = some 0 ∧
      fakeWiimoteMgrHandleHciCmdFromHost hciCmdChangeConPacketType [0, 0, 0x18, 0xCC] s =
        .ok (true, t) ∧ RepliesInOrder hciCmdChangeConPacketType [0, 0, 0x18, 0xCC] s t := by
  obtain ⟨s, reached, check⟩ : ∃ s, Run .lenient anyInput s ∧
      decide (getFakeWiimoteForHciConHandle s.core 0 = some 0 ∧ CanInject s 2) = true :=
    exists_of_execute [writeScanEnable, .timer [.added (plainDevice 1)], acceptCon 0]
      (by decide +kernel)
  obtain ⟨found, can⟩ := of_decide_eq_true check
  have translated : hciCmdChangeConPacketType ∈ translatedCommands := by decide
  have handle : load16 [0, 0, 0x18, 0xCC] 0 = .ok 0 := rfl
  obtain ⟨t, run, -⟩ := (manager_answers_iff translated handle found).mpr
    ⟨4, 2, rfl, by decide, can⟩
  exact ⟨s, t, reached, found, run, (replies_in_order_iff run).1.mpr ⟨by decide, by decide⟩⟩

/-- Sniff intervals of at least 8 and at most 32 slots are asked for, and 8192 is told. -/
theorem sniff_interval_swapped :
    ∃ s t, Run .lenient anyInput s ∧ getFakeWiimoteForHciConHandle s.core 0 = some 0 ∧
      fakeWiimoteMgrHandleHciCmdFromHost hciCmdSniffMode [0, 0, 32, 0, 8, 0, 1, 0, 1, 0] s =
        .ok (true, t) ∧
      ¬ RepliesInOrder hciCmdSniffMode [0, 0, 32, 0, 8, 0, 1, 0, 1, 0] s t ∧
      ¬ IntervalInRange [0, 0, 32, 0, 8, 0, 1, 0, 1, 0] s t := by
  obtain ⟨s, reached, check⟩ : ∃ s, Run .lenient anyInput s ∧
      decide (getFakeWiimoteForHciConHandle s.core 0 = some 0 ∧ CanInject s 2) = true :=
    exists_of_execute [writeScanEnable, .timer [.added (plainDevice 1)], acceptCon 0]
      (by decide +kernel)
  obtain ⟨found, can⟩ := of_decide_eq_true check
  have translated : hciCmdSniffMode ∈ translatedCommands := by decide
  have handle : load16 [0, 0, 32, 0, 8, 0, 1, 0, 1, 0] 0 = .ok 0 := rfl
  obtain ⟨t, run, -⟩ := (manager_answers_iff translated handle found).mpr
    ⟨4, 2, rfl, by decide, can⟩
  obtain ⟨order, range⟩ := sniffMode_iff run
  exact ⟨s, t, reached, found, run, mt order.mp (by decide), mt range.mp (by decide)⟩

end Fakemote
