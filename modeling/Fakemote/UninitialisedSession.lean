import Fakemote.SessionTrace
import Fakemote.UninitialisedMemory

/-! The code of a session on different uninitialised memory. -/

namespace Fakemote

open Bytes Program

/-- The sessions differ in the camera's registers only, and in these only when the camera leaks. -/
def LikeSession (leaks : Leaks) (wiimote other : Session) : Prop :=
  ∃ regs, other = { wiimote with irRegs := regs } ∧
    ∀ address, ¬ (leaks.camera = true ∧ CameraRegister address) → regs address = wiimote.irRegs address

theorem LikeSession.refl (leaks : Leaks) (wiimote : Session) : LikeSession leaks wiimote wiimote :=
  ⟨wiimote.irRegs, rfl, fun _ _ => rfl⟩

theorem LikeSession.change {leaks : Leaks} {wiimote other : Session} {f : Session → Session}
    (like : LikeSession leaks wiimote other)
    (apart : ∀ regs, f { wiimote with irRegs := regs } = { f wiimote with irRegs := regs }) :
    LikeSession leaks (f wiimote) (f other) := by
  obtain ⟨regs, rfl, same⟩ := like
  have kept : (f wiimote).irRegs = wiimote.irRegs := by
    have whole : f wiimote = { f wiimote with irRegs := wiimote.irRegs } := apart wiimote.irRegs
    rw [whole]
  refine ⟨regs, apart regs, fun address out => ?_⟩
  rw [kept]
  exact same address out

structure LikePeriphery (leaks : Leaks) (p q : Periphery) : Prop where
  sessions : ∀ w, LikeSession leaks (p.sessions w) (q.sessions w)
  mappings : q.mappings = p.mappings
  gamepads : q.gamepads = p.gamepads
  bulkIn : LikeEndpoint (LooseAcl leaks) p.bulkIn q.bulkIn
  heap : LikeHeap p.heap q.heap
  startingId : q.startingId = p.startingId
  sensorBarPositionTop : q.sensorBarPositionTop = p.sensorBarPositionTop
  platform : q.platform = { p.platform with stack := q.platform.stack }
  stackReads : q.stackReads = p.stackReads
  egcCalls : q.egcCalls = p.egcCalls
  onScreen : leaks.touches = false → ∀ id, 0 ≤ (p.gamepads id).touchX.toInt

abbrev Twins {α β : Type} (leaks : Leaks) (A : α → β → Prop) (m : P α) (n : P β) : Prop :=
  Relates (LikePeriphery leaks) A m n

abbrev TwinsAt {α β : Type} (leaks : Leaks) (A : α → β → Prop) (m : P α) (n : P β)
    (p : Periphery) : Prop :=
  RelatesAt (LikePeriphery leaks) A m n p

section Helpers

variable {leaks : Leaks}

theorem twins_getSession (w : WiimoteId) :
    Twins leaks (LikeSession leaks) (getSession w) (getSession w) :=
  Relates.get.bind fun _ _ like => .pure (like.sessions w)

theorem twinsAt_modifySession {p : Periphery} {w : WiimoteId} {f g : Session → Session}
    (kept : ∀ other, LikeSession leaks (p.sessions w) other →
      LikeSession leaks (f (p.sessions w)) (g other)) :
    TwinsAt leaks Eq (modifySession w f) (modifySession w g) p := by
  refine fun q like => .ok ⟨rfl, { like with sessions := fun v => ?_ }⟩
  dsimp only
  by_cases same : v = w
  · subst same
    rw [Function.update_self, Function.update_self]
    exact kept _ (like.sessions v)
  · rw [Function.update_of_ne same, Function.update_of_ne same]
    exact like.sessions v

theorem twins_modifySession {w : WiimoteId} {f g : Session → Session}
    (kept : ∀ wiimote other, LikeSession leaks wiimote other →
      LikeSession leaks (f wiimote) (g other)) :
    Twins leaks Eq (modifySession w f) (modifySession w g) :=
  fun p => twinsAt_modifySession fun other => kept (p.sessions w) other

theorem twins_change {w : WiimoteId} {f : Session → Session}
    (apart : ∀ wiimote regs,
      f { wiimote with irRegs := regs } = { f wiimote with irRegs := regs }) :
    Twins leaks Eq (modifySession w f) (modifySession w f) :=
  twins_modifySession fun wiimote _ like => like.change (apart wiimote)

theorem twins_modifyMapping (d : SlotId) (f : Mapping → Mapping) :
    Twins leaks Eq (modifyMapping d f) (modifyMapping d f) :=
  .modify fun p q like => { like with
    mappings := by rw [like.mappings] }

theorem twins_callEgc (call : EgcCall) : Twins leaks Eq (callEgc call) (callEgc call) :=
  .modify fun _ _ like => { like with egcCalls := congrArg (· ++ _) like.egcCalls }

theorem twins_stackBytes (count : Nat) :
    Twins leaks (fun bytes other => bytes.length = count ∧ other.length = count) (stackBytes count)
      (stackBytes count) := by
  refine Relates.get.bind fun p q like => ?_
  refine Relates.bind_eq (.modify fun s t like => { like with
    stackReads := congrArg (· + count) like.stackReads }) fun _ => ?_
  exact .pure ⟨by simp, by simp⟩

theorem twins_assertThat {first second : Prop} [Decidable first] [Decidable second]
    (same : first ↔ second) (failed : Assertion) :
    Twins leaks Eq (assertThat first failed) (assertThat second failed) :=
  .ite same (.pure rfl) (.throw _)

theorem twins_injectBulkIn {packet other : Packet}
    (packets : LikePacket (LooseAcl leaks) packet other) :
    Twins leaks Eq (injectBulkIn packet) (injectBulkIn other) := by
  intro p q like
  have done := inject_alike like.heap like.bulkIn packets
  change Alike _ ((liftM (inject p.heap p.bulkIn packet) : P Injection) p >>= _)
    ((liftM (inject q.heap q.bulkIn other) : P Injection) q >>= _)
  generalize inject p.heap p.bulkIn packet = x at done ⊢
  generalize inject q.heap q.bulkIn other = y at done ⊢
  cases done with
  | error e => exact .error e
  | ok done => exact .ok ⟨done.ret.symm, { like with heap := done.heap, bulkIn := done.endpoint }⟩

end Helpers

theorem LikePacket.whole {loose : List UInt8 → Nat → Prop} {packet : Packet}
    (filled : ∀ data, packet.bytes = .ok data → packet.size.toNat ≤ data.length) :
    LikePacket loose packet packet := by
  refine ⟨rfl, ?_⟩
  rcases found : packet.bytes with fault | data
  · exact .error fault
  · refine .ok ⟨rfl, fun rest junk size same => ?_⟩
    have least := filled data found
    have none : rest = [] := List.eq_nil_of_length_eq_zero (by omega)
    have nothing : junk = [] := List.eq_nil_of_length_eq_zero (by omega)
    rw [none, nothing]
    exact .refl _ _

theorem l2capMsg_whole {handle dcid size : UInt16} {payload : Except Fault (List UInt8)}
    (filled : ∀ data, payload = .ok data → size.toNat ≤ data.length) :
    ∀ data, (l2capMsg handle dcid size payload).bytes = .ok data →
      (l2capMsg handle dcid size payload).size.toNat ≤ data.length := by
  intro data written
  cases payload with
  | error fault => cases written
  | ok payload =>
      cases written
      have least := filled payload rfl
      have bound := size.toNat_lt
      unfold l2capMsg hciAclMsg
      simp only [UInt16.toNat_add, UInt16.toNat_ofNat', List.length_append, bytes16_length,
        hciAclDataHdrSize, l2capHdrSize]
      omega

theorem l2capCmdMsg_whole {handle size : UInt16} {code ident : UInt8}
    {payload : Except Fault (List UInt8)}
    (filled : ∀ data, payload = .ok data → size.toNat ≤ data.length) :
    ∀ data, (l2capCmdMsg handle code ident size payload).bytes = .ok data →
      (l2capCmdMsg handle code ident size payload).size.toNat ≤ data.length := by
  apply l2capMsg_whole
  intro data written
  cases payload with
  | error fault => cases written
  | ok payload =>
      cases written
      have least := filled payload rfl
      have bound := size.toNat_lt
      simp only [UInt16.toNat_add, UInt16.toNat_ofNat', List.length_append, bytes16_length,
        List.length_cons, List.length_nil, l2capCmdHdrSize]
      omega

theorem LikeBytes.report {leaks : Leaks} {front body other : List UInt8} {id : UInt8}
    (headers : front.length = 8) (length : other.length = body.length)
    (same : ∀ index, ¬ LooseBody leaks id body index → other[index]? = body[index]?) :
    LikeBytes (LooseAcl leaks)
      (front ++ (((hidTypeData <<< (4 : UInt8)) ||| hidParamInput) :: id :: body))
      (front ++ (((hidTypeData <<< (4 : UInt8)) ||| hidParamInput) :: id :: other)) := by
  refine ⟨by simp [length], fun index out => ?_⟩
  have eighth : ((hidTypeData <<< (4 : UInt8)) ||| hidParamInput) ∈
      (front ++ (((hidTypeData <<< (4 : UInt8)) ||| hidParamInput) :: id :: body))[8]? := by
    rw [List.getElem?_append_right (Nat.le_of_eq headers), headers]
    rfl
  have ninth :
      (front ++ (((hidTypeData <<< (4 : UInt8)) ||| hidParamInput) :: id :: body)).getD 9 0 =
        id := by
    rw [List.getD_eq_getElem?_getD, List.getElem?_append_right (by omega), headers]
    rfl
  have rest : (front ++ (((hidTypeData <<< (4 : UInt8)) ||| hidParamInput) :: id :: body)).drop 10 =
      body := by
    rw [List.drop_append, headers, List.drop_eq_nil_of_le (by omega)]
    rfl
  by_cases headed : index < 10
  · by_cases early : index < 8
    · rw [List.getElem?_append_left (by omega), List.getElem?_append_left (by omega)]
    · rw [List.getElem?_append_right (by omega), List.getElem?_append_right (by omega)]
      have two : index - front.length = 0 ∨ index - front.length = 1 := by omega
      rcases two with zero | one
      · rw [zero]
        rfl
      · rw [one]
        rfl
  · have inside : ¬ LooseBody leaks id body (index - 10) := by
      intro loose
      apply out
      refine ⟨eighth, by omega, ?_⟩
      rw [ninth, rest]
      exact loose
    have position : index - front.length = index - 10 + 1 + 1 := by omega
    rw [List.getElem?_append_right (by omega), List.getElem?_append_right (by omega), position,
      List.getElem?_cons_succ, List.getElem?_cons_succ, List.getElem?_cons_succ,
      List.getElem?_cons_succ]
    exact same _ inside

theorem LikePacket.report {leaks : Leaks} (handle dcid : UInt16) (id : UInt8)
    {body other : List UInt8} (length : other.length = body.length)
    (same : ∀ index, ¬ LooseBody leaks id body index → other[index]? = body[index]?) :
    LikePacket (LooseAcl leaks)
      (l2capMsg handle dcid (UInt16.ofNat (body.length + 1 + 1))
        (.ok (((hidTypeData <<< (4 : UInt8)) ||| hidParamInput) :: id :: body)))
      (l2capMsg handle dcid (UInt16.ofNat (other.length + 1 + 1))
        (.ok (((hidTypeData <<< (4 : UInt8)) ||| hidParamInput) :: id :: other))) := by
  rw [length]
  refine ⟨rfl, .ok ⟨by simp [length], ?_⟩⟩
  intro rest junk size empty
  have filled := @l2capMsg_whole handle dcid (UInt16.ofNat (body.length + 1 + 1))
    (.ok (((hidTypeData <<< (4 : UInt8)) ||| hidParamInput) :: id :: body)) (by
      rintro data ⟨⟩
      simp only [UInt16.toNat_ofNat', List.length_cons]
      exact Nat.mod_le _ _) _ rfl
  have none : rest = [] := List.eq_nil_of_length_eq_zero (by omega)
  subst none
  have nothing : junk = [] := List.eq_nil_of_length_eq_zero empty
  subst nothing
  rw [List.append_nil, List.append_nil]
  exact @LikeBytes.report leaks (bytes16 _ ++ bytes16 _ ++ (bytes16 _ ++ bytes16 _)) body other id
    rfl length same

namespace Device

variable {leaks : Leaks} (dev : Device)

theorem twins_sendHidInputReport {id : UInt8} {data other : List UInt8}
    (length : other.length = data.length)
    (same : ∀ index, ¬ LooseBody leaks id data index → other[index]? = data[index]?) :
    Twins leaks Eq (dev.sendHidInputReport id data) (dev.sendHidInputReport id other) := by
  refine (twins_getSession _).bind fun wiimote _ like => ?_
  obtain ⟨regs, rfl, -⟩ := like
  refine Relates.bind_eq (twins_assertThat (by rw [length]) _) fun _ => ?_
  refine Relates.bind_eq (twins_assertThat (by simp only [List.length_cons, length]) _) fun _ => ?_
  exact twins_injectBulkIn (.report _ _ id length same)

theorem twins_sendHidInputReport_same (id : UInt8) (data : List UInt8) :
    Twins leaks Eq (dev.sendHidInputReport id data) (dev.sendHidInputReport id data) :=
  dev.twins_sendHidInputReport rfl fun _ _ => rfl

theorem twins_wiimoteSendAck (rptId errorCode : UInt8) :
    Twins leaks Eq (dev.wiimoteSendAck rptId errorCode) (dev.wiimoteSendAck rptId errorCode) := by
  refine (twins_getSession _).bind fun wiimote _ like => ?_
  obtain ⟨regs, rfl, -⟩ := like
  exact dev.twins_sendHidInputReport_same _ _

/-- The padding of a status report is not initialised. -/
theorem twins_wiimoteSendInputReportStatus (padding : leaks.padding = true) :
    Twins leaks Eq dev.wiimoteSendInputReportStatus dev.wiimoteSendInputReportStatus := by
  refine (twins_getSession _).bind fun wiimote _ like => ?_
  obtain ⟨regs, rfl, -⟩ := like
  refine (twins_stackBytes 2).bind fun bytes other ⟨two, also⟩ => ?_
  apply dev.twins_sendHidInputReport
  · simp [two, also]
  · intro index out
    obtain ⟨a, b, rfl⟩ := List.length_eq_two.mp two
    obtain ⟨c, d, rfl⟩ := List.length_eq_two.mp also
    have outside : index ≠ 3 ∧ index ≠ 4 := by
      constructor
      · rintro rfl
        exact out (Or.inl ⟨padding, rfl, Or.inl rfl⟩)
      · rintro rfl
        exact out (Or.inl ⟨padding, rfl, Or.inr rfl⟩)
    match index, outside with
    | 0, _ | 1, _ | 2, _ => rfl
    | n + 5, _ => rfl

theorem extensionReadData_camera (memory : Nat → UInt8) (wiimote : Session) (regs : Registers)
    (address size : Nat) :
    { wiimote with irRegs := regs : Session }.extensionReadData memory address size =
      (wiimote.extensionReadData memory address size).map fun read =>
        ({ read.1 with irRegs := regs }, read.2) := by
  unfold Session.extensionReadData
  dsimp only
  split
  · rfl
  · split
    · split
      · rfl
      · rfl
    · rfl

theorem extensionWriteData_camera (wiimote : Session) (regs : Registers) (data : List UInt8)
    (address : Nat) :
    { wiimote with irRegs := regs : Session }.extensionWriteData data address =
      (wiimote.extensionWriteData data address).map fun written =>
        { written with irRegs := regs } := by
  unfold Session.extensionWriteData
  split
  · rfl
  · rfl

theorem read_like {regs other : Registers} {address size : Nat}
    (same : ∀ address, ¬ (leaks.camera = true ∧ CameraRegister address) → other address = regs address)
    (index : Nat) (out : ¬ (leaks.camera = true ∧ CameraRegister (address + index))) :
    (other.read address size)[index]? = (regs.read address size)[index]? := by
  unfold Registers.read
  rw [List.getElem?_map, List.getElem?_map]
  by_cases inside : index < size
  · rw [List.getElem?_range inside]
    exact congrArg some (same _ out)
  · rw [List.getElem?_eq_none (by simpa using inside)]
    rfl

structure LikeRead (leaks : Leaks) (address : Nat) (read other : UInt8 × Session × List UInt8) :
    Prop where
  error : other.1 = read.1
  session : LikeSession leaks read.2.1 other.2.1
  length : other.2.2.length = read.2.2.length
  data : ∀ index, ¬ (leaks.camera = true ∧ CameraRegister (address + index)) →
    other.2.2[index]? = read.2.2[index]?

theorem readMemory_like (memory : Nat → UInt8) {wiimote other : Session}
    (like : LikeSession leaks wiimote other) (size : Nat) :
    LikeRead leaks wiimote.readRequest.address.toNat (readMemory memory wiimote size)
      (readMemory memory other size) := by
  have same := like
  obtain ⟨regs, rfl, kept⟩ := like
  unfold readMemory
  dsimp only
  split
  · split
    · exact ⟨rfl, same, rfl, fun _ _ => rfl⟩
    · exact ⟨rfl, same, rfl, fun _ _ => rfl⟩
  · split
    · split
      · exact ⟨rfl, same, rfl, fun _ _ => rfl⟩
      · split
        · rw [extensionReadData_camera memory wiimote regs]
          rcases read : wiimote.extensionReadData memory wiimote.readRequest.address.toNat size with
            _ | ⟨after, data⟩
          · exact ⟨rfl, same, rfl, fun _ _ => rfl⟩
          · obtain ⟨key, dirty, rfl⟩ := extensionReadData_session read
            exact ⟨rfl, ⟨regs, rfl, kept⟩, rfl, fun _ _ => rfl⟩
        · split
          · unfold Session.irCameraReadData
            by_cases beyond : irRegsSize < wiimote.readRequest.address.toNat + size
            · rw [if_pos beyond, if_pos beyond]
              exact ⟨rfl, same, rfl, fun _ _ => rfl⟩
            · rw [if_neg beyond, if_neg beyond]
              exact ⟨rfl, same, by simp, fun index out => read_like kept index out⟩
          · exact ⟨rfl, same, rfl, fun _ _ => rfl⟩
    · exact ⟨rfl, same, rfl, fun _ _ => rfl⟩

theorem middle_like {front data other rest : List UInt8} (length : other.length = data.length)
    {index : Nat} (same : front.length ≤ index → index < front.length + data.length →
      other[index - front.length]? = data[index - front.length]?) :
    (front ++ (other ++ rest))[index]? = (front ++ (data ++ rest))[index]? := by
  rw [List.getElem?_append, List.getElem?_append, List.getElem?_append, List.getElem?_append,
    length]
  split
  · rfl
  · split
    · exact same (by omega) (by omega)
    · rfl

theorem chunk_like {address : UInt16} {front data other rest : List UInt8}
    (three : front.length = 3) (length : other.length = data.length)
    (same : ∀ index, ¬ (leaks.camera = true ∧ CameraRegister (address.toNat + index)) →
      other[index]? = data[index]?) (index : Nat)
    (out : ¬ LooseBody leaks inputReportIdReadDataReply
      (front ++ bytes16 address ++ data ++ rest) index) :
    (front ++ bytes16 address ++ other ++ rest)[index]? =
      (front ++ bytes16 address ++ data ++ rest)[index]? := by
  have high : (front ++ bytes16 address ++ data ++ rest).getD 3 0 = highByte address := by
    rw [List.append_assoc, List.append_assoc, List.getD_eq_getElem?_getD,
      List.getElem?_append_right (by omega), three]
    rfl
  have low : (front ++ bytes16 address ++ data ++ rest).getD 4 0 = lowByte address := by
    rw [List.append_assoc, List.append_assoc, List.getD_eq_getElem?_getD,
      List.getElem?_append_right (by omega), three]
    rfl
  have five : (front ++ bytes16 address).length = 5 := by
    rw [List.length_append, three]
    rfl
  rw [List.append_assoc _ other, List.append_assoc _ data]
  apply middle_like length
  intro least _
  apply same
  intro loose
  apply out
  refine Or.inr ⟨loose.1, Or.inl ⟨rfl, five ▸ least, ?_⟩⟩
  rw [high, low, word16_bytes, ← five]
  exact loose.2

theorem twins_fakeWiimoteProcessReadRequest :
    Twins leaks Eq dev.fakeWiimoteProcessReadRequest dev.fakeWiimoteProcessReadRequest := by
  refine Relates.get.bind fun p q states => ?_
  have like := states.sessions dev.self
  have memory : q.platform.memory = p.platform.memory := by rw [states.platform]
  rw [memory]
  generalize p.sessions dev.self = wiimote at like ⊢
  generalize q.sessions dev.self = other at like ⊢
  have request : other.readRequest = wiimote.readRequest := by
    obtain ⟨regs, rfl, -⟩ := like
    rfl
  have read := readMemory_like p.platform.memory like (min 16 wiimote.readRequest.size.toNat)
  dsimp only
  rw [request]
  refine Relates.ite Iff.rfl (.pure rfl) ?_
  generalize readMemory p.platform.memory wiimote (min 16 wiimote.readRequest.size.toNat) = first
    at read ⊢
  generalize readMemory p.platform.memory other (min 16 wiimote.readRequest.size.toNat) = second
    at read ⊢
  obtain ⟨error, after, data⟩ := first
  obtain ⟨error', later, bytes⟩ := second
  obtain ⟨code, session, length, same⟩ := read
  dsimp only at code session length same ⊢
  subst code
  obtain ⟨regs, rfl, kept⟩ := session
  refine Relates.bind_eq (twins_modifySession fun _ _ _ => ⟨regs, rfl, kept⟩) fun _ => ?_
  refine Relates.bind_eq (dev.twins_sendHidInputReport ?_ ?_) fun _ => .pure rfl
  · simp only [List.length_append, length, List.length_replicate]
  · rw [length]
    exact fun index out => chunk_like rfl length same index out

theorem write_like {regs other : Registers} {data : List UInt8} {address : Nat}
    (same : ∀ address, ¬ (leaks.camera = true ∧ CameraRegister address) → other address = regs address)
    (index : Nat) (out : ¬ (leaks.camera = true ∧ CameraRegister index)) :
    other.write address data index = regs.write address data index := by
  unfold Registers.write
  split
  · rfl
  · exact same index out

theorem writeMemory_like {wiimote other : Session} (like : LikeSession leaks wiimote other)
    (write : WriteRequest) :
    (writeMemory other write).1 = (writeMemory wiimote write).1 ∧
      LikeSession leaks (writeMemory wiimote write).2 (writeMemory other write).2 := by
  have same := like
  obtain ⟨regs, rfl, kept⟩ := like
  unfold writeMemory
  dsimp only
  split
  · split
    · exact ⟨rfl, same⟩
    · exact ⟨rfl, regs, rfl, kept⟩
  · split
    · split
      · exact ⟨rfl, same⟩
      · split
        · rw [extensionWriteData_camera wiimote regs]
          rcases written : wiimote.extensionWriteData write.data write.address.toNat with _ | after
          · exact ⟨rfl, same⟩
          · have camera : after.irRegs = wiimote.irRegs := by
              unfold Session.extensionWriteData at written
              split at written
              · cases written
              · cases written
                rfl
            exact ⟨rfl, regs, rfl, fun address out => by rw [camera, kept address out]⟩
        · split
          · unfold Session.irCameraWriteData
            by_cases beyond : irRegsSize < write.address.toNat + write.data.length
            · rw [if_pos beyond, if_pos beyond]
              exact ⟨rfl, same⟩
            · rw [if_neg beyond, if_neg beyond]
              exact ⟨rfl, _, rfl, fun address out => write_like kept address out⟩
          · exact ⟨rfl, same⟩
    · exact ⟨rfl, same⟩

theorem twins_fakeWiimoteProcessWriteRequest (report : List UInt8) :
    Twins leaks Eq (dev.fakeWiimoteProcessWriteRequest report)
      (dev.fakeWiimoteProcessWriteRequest report) := by
  refine Relates.bind_eq (.lift_eq _) fun size => ?_
  refine Relates.ite Iff.rfl (.pure rfl) ?_
  refine Relates.bind_eq (.lift_eq _) fun space => ?_
  refine Relates.bind_eq (.lift_eq _) fun slave => ?_
  refine Relates.bind_eq (.lift_eq _) fun address => ?_
  refine Relates.bind_eq (.lift_eq _) fun data => ?_
  refine (twins_getSession _).bind fun wiimote other like => ?_
  obtain ⟨error, session⟩ := writeMemory_like like
    ⟨(space >>> (2 : UInt8)) &&& (3 : UInt8), slave >>> (1 : UInt8), address, data⟩
  dsimp only
  rw [error]
  refine Relates.bind_eq (twins_modifySession fun _ _ _ => session) fun _ => ?_
  exact Relates.bind_eq (dev.twins_wiimoteSendAck _ _) fun _ => .pure rfl

theorem twins_fakeWiimoteProcessExtensionChange {p : Periphery}
    (padding : (p.sessions dev.self).newExtension ≠ (p.sessions dev.self).curExtension →
      leaks.padding = true) :
    TwinsAt leaks Eq dev.fakeWiimoteProcessExtensionChange
      dev.fakeWiimoteProcessExtensionChange p := by
  refine .get_bind fun q states => ?_
  have like := states.sessions dev.self
  generalize p.sessions dev.self = wiimote at like padding ⊢
  generalize q.sessions dev.self = other at like ⊢
  obtain ⟨regs, rfl, kept⟩ := like
  refine .ite Iff.rfl (fun _ => (Relates.pure rfl).at_state p) fun changed => ?_
  refine Relates.at_state ?_ p
  refine Relates.bind_eq (twins_modifySession fun _ _ _ => ⟨regs, rfl, kept⟩) fun _ => ?_
  exact Relates.bind_eq (dev.twins_wiimoteSendInputReportStatus (padding changed)) fun _ =>
    .pure rfl

theorem twins_extensionBytes {size : Nat} (small : size ≤ extensionRegsSize) :
    Twins leaks (fun bytes other => other = bytes ∧ bytes.length = size) (dev.extensionBytes size)
      (dev.extensionBytes size) := by
  refine Relates.get.bind fun p q states => ?_
  have like := states.sessions dev.self
  have memory : q.platform.memory = p.platform.memory := by rw [states.platform]
  rw [memory]
  generalize p.sessions dev.self = wiimote at like ⊢
  generalize q.sessions dev.self = other at like ⊢
  obtain ⟨regs, rfl, kept⟩ := like
  by_cases empty : size = 0
  · rw [if_pos empty, if_pos empty]
    exact .pure ⟨rfl, empty.symm⟩
  · rw [if_neg empty, if_neg empty, extensionReadData_camera _ wiimote regs]
    rcases read : wiimote.extensionReadData p.platform.memory 0 size with _ | ⟨after, data⟩
    · unfold Session.extensionReadData at read
      rw [if_neg (by omega)] at read
      dsimp only at read
      split at read <;> cases read
    · have length := extensionReadData_length read
      obtain ⟨key, dirty, rfl⟩ := extensionReadData_session read
      refine Relates.bind_eq (twins_modifySession fun _ _ _ => ⟨regs, rfl, kept⟩) fun _ => ?_
      exact .pure ⟨rfl, length⟩

theorem storeBytes_alike {buffer other bytes bytes' : List UInt8} (offset : Nat)
    (room : other.length = buffer.length) (size : bytes'.length = bytes.length) :
    Alike (fun after later => storeBytes buffer offset bytes = .ok after ∧
        storeBytes other offset bytes' = .ok later ∧ later.length = after.length)
      (storeBytes buffer offset bytes) (storeBytes other offset bytes') := by
  unfold storeBytes Bytes.storeBytes
  rw [room, size]
  split
  · refine .ok ⟨rfl, rfl, ?_⟩
    simp only [List.length_append, List.length_take, List.length_drop, room, size]
  · exact .error _

theorem dots_like {mode : UInt8} {buttons acc dots dots' extension : List UInt8}
    (buttonsLength : buttons.length = if inputReportHasBtn mode then 2 else 0)
    (accLength : acc.length = inputReportAccSize mode)
    (dotsLength : dots.length = inputReportIrSize mode) (length : dots'.length = dots.length)
    (same : leaks.camera = false → dots' = dots) (index : Nat)
    (out : ¬ LooseBody leaks mode (buttons ++ acc ++ dots ++ extension) index) :
    (buttons ++ acc ++ dots' ++ extension)[index]? =
      (buttons ++ acc ++ dots ++ extension)[index]? := by
  have front : (buttons ++ acc).length =
      (if inputReportHasBtn mode then 2 else 0) + inputReportAccSize mode := by
    rw [List.length_append, buttonsLength, accLength]
  rw [List.append_assoc _ dots', List.append_assoc _ dots]
  apply middle_like length
  intro least most
  cases shown : leaks.camera with
  | false => rw [same shown]
  | true =>
      exfalso
      apply out
      rcases (inputReport_layout mode).2.1 with none | placed
      · omega
      · exact Or.inr ⟨shown, Or.inr ⟨by omega, by omega⟩⟩

theorem twins_fakeWiimoteSendDataReport :
    Twins leaks Eq dev.fakeWiimoteSendDataReport dev.fakeWiimoteSendDataReport := by
  refine (twins_getSession _).bind fun wiimote other like => ?_
  obtain ⟨regs, rfl, kept⟩ := like
  have small : inputReportExtSize wiimote.reportingMode ≤ extensionRegsSize := by
    have most := (inputReport_layout wiimote.reportingMode).2.2.2
    rw [extensionRegsSize]
    omega
  refine Relates.ite Iff.rfl (.pure rfl) (Relates.ite Iff.rfl ?_ (.pure rfl))
  refine (twins_stackBytes _).bind fun buffer other lengths => ?_
  obtain ⟨length, also⟩ := lengths
  refine (Relates.lift (storeBytes_alike _ (by rw [length, also]) rfl)).bind
    fun acc acc' stored => ?_
  obtain ⟨accStored, accStored', room⟩ := stored
  refine (Relates.lift (storeBytes_alike _ room (by simp))).bind
    fun ir ir' stored => ?_
  obtain ⟨irStored, irStored', room⟩ := stored
  refine (dev.twins_extensionBytes small).bind fun extension _ same => ?_
  obtain ⟨rfl, extLength⟩ := same
  refine (Relates.lift (storeBytes_alike _ room rfl)).bind
    fun ext ext' stored => ?_
  obtain ⟨extStored, extStored', room⟩ := stored
  refine (Relates.lift (storeBytes_alike _ room rfl)).bind
    fun btn btn' stored => ?_
  obtain ⟨btnStored, btnStored', room⟩ := stored
  have sent := report_take (accelerometer_length wiimote _) (Registers.read_length _ _ _) extLength
    (buttons_length _ _) accStored irStored extStored btnStored
  have sent' := report_take (accelerometer_length wiimote _) (Registers.read_length _ _ _) extLength
    (buttons_length _ _) accStored' irStored' extStored' btnStored'
  refine Relates.bind_eq (dev.twins_sendHidInputReport ?_ ?_) fun _ => twins_change fun _ _ => rfl
  · rw [List.length_take, List.length_take, room]
  · rw [sent, sent']
    apply dots_like (buttons_length _ _) (accelerometer_length wiimote _)
      (Registers.read_length _ _ _)
    · simp
    · intro hidden
      apply List.ext_getElem?
      intro index
      exact read_like kept index (by simp [hidden])

end Device

end Fakemote
