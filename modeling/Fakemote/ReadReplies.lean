import Fakemote.MemoryWrites
import Fakemote.KeyCoherence
import Fakemote.HidReports

/-! The replies to a read of the host: what a read of some bytes calls for, and that each chunk is
the next of these replies. -/

namespace Fakemote

open Bytes

structure ReadReply where
  error : UInt8
  address : UInt16
  bytes : List UInt8
  deriving DecidableEq, Repr

def readReply (reply : Reply) : Option ReadReply :=
  match reply.report with
  | some (id, _ :: _ :: sizeError :: high :: low :: data) =>
      if id = inputReportIdReadDataReply ∧ data.length = 16 then
        some ⟨sizeError &&& (15 : UInt8), word16 high low,
          data.take ((sizeError >>> (4 : UInt8)).toNat + 1)⟩
      else none
  | _ => none

def readRepliesOf (sent : List Reply) : List ReadReply := sent.filterMap readReply

def readRepliesIn (events : List Exchange) : List ReadReply :=
  events.flatMap fun e => readRepliesOf e.sent

-- The replies that a read calls for. `sent` gives the bytes that go out for a range.

def goodReply (sent : Nat → Nat → List UInt8) (address size : Nat) : ReadReply :=
  ⟨errorCodeSuccess, UInt16.ofNat address, sent address size⟩

def refusedReply (m : Memory) (address : Nat) : ReadReply :=
  ⟨m.refusal, UInt16.ofNat address, List.replicate 16 0⟩

def goodReplies (sent : Nat → Nat → List UInt8) (address size count : Nat) : List ReadReply :=
  (List.range count).map fun i => goodReply sent (address + 16 * i) (min 16 (size - 16 * i))

/-- A read that fits is answered in chunks. One that does not is refused at once in the EEPROM, and
in the registers at the first chunk that crosses their end. -/
def expectedReplies (m : Memory) (sent : Nat → Nat → List UInt8) (address size : Nat) :
    List ReadReply :=
  if address + size ≤ m.size then goodReplies sent address size ((size + 15) / 16)
  else
    match m with
    | .eeprom => [refusedReply m address]
    | .extension | .camera =>
        goodReplies sent address size ((m.size - address) / 16) ++
          [refusedReply m (address + 16 * ((m.size - address) / 16))]

def NextFits (m : Memory) (address size : Nat) : Prop :=
  match m with
  | .eeprom => address + size ≤ m.size
  | .extension | .camera => address + min 16 size ≤ m.size

theorem goodReplies_succ (sent : Nat → Nat → List UInt8) (address size count : Nat) :
    goodReplies sent address size (count + 1) =
      goodReply sent address (min 16 size) :: goodReplies sent (address + 16) (size - 16) count := by
  unfold goodReplies
  rw [List.range_succ_eq_map, List.map_cons, List.map_map]
  congr 1
  apply List.map_congr_left
  intro i _
  have place : address + 16 * (i + 1) = address + 16 + 16 * i := by omega
  have left : size - 16 * (i + 1) = size - 16 - 16 * i := by omega
  simp only [Function.comp_apply, Nat.succ_eq_add_one, place, left]

theorem expectedReplies_whole {m : Memory} {sent : Nat → Nat → List UInt8} {address size : Nat}
    (fits : address + size ≤ m.size) : expectedReplies m sent address size =
      goodReplies sent address size ((size + 15) / 16) := if_pos fits

theorem expectedReplies_registers {m : Memory} {sent : Nat → Nat → List UInt8}
    {address size : Nat} (registers : m ≠ .eeprom) (beyond : ¬ address + size ≤ m.size) :
    expectedReplies m sent address size =
      goodReplies sent address size ((m.size - address) / 16) ++
        [refusedReply m (address + 16 * ((m.size - address) / 16))] := by
  cases m with
  | eeprom => exact absurd rfl registers
  | extension => exact if_neg beyond
  | camera => exact if_neg beyond

theorem NextFits.registers {m : Memory} {address size : Nat} (registers : m ≠ .eeprom) :
    NextFits m address size ↔ address + min 16 size ≤ m.size := by
  cases m with
  | eeprom => exact absurd rfl registers
  | extension => exact Iff.rfl
  | camera => exact Iff.rfl

theorem NextFits.bound {m : Memory} {address size : Nat} (fits : NextFits m address size)
    (nonzero : size ≠ 0) : address < m.size := by
  by_cases eeprom : m = .eeprom
  · rw [eeprom] at fits ⊢
    have whole : address + size ≤ Memory.eeprom.size := fits
    omega
  · rw [NextFits.registers eeprom] at fits
    omega

theorem Memory.size_le (m : Memory) : m.size ≤ 5888 := by
  cases m <;> decide

theorem expectedReplies_good {m : Memory} {sent : Nat → Nat → List UInt8} {address size : Nat}
    (some : size ≠ 0) (fits : NextFits m address size) :
    expectedReplies m sent address size = goodReply sent address (min 16 size) ::
      if size ≤ 16 then [] else expectedReplies m sent (address + 16) (size - 16) := by
  by_cases last : size ≤ 16
  · have whole : address + size ≤ m.size := by
      by_cases eeprom : m = .eeprom
      · rw [eeprom] at fits ⊢
        exact fits
      · rw [NextFits.registers eeprom, Nat.min_eq_right last] at fits
        exact fits
    have one : (size + 15) / 16 = 0 + 1 := by omega
    rw [if_pos last, expectedReplies_whole whole, one, goodReplies_succ]
    rfl
  · rw [if_neg last]
    by_cases whole : address + size ≤ m.size
    · have rest : address + 16 + (size - 16) ≤ m.size := by omega
      have count : (size + 15) / 16 = (size - 16 + 15) / 16 + 1 := by omega
      rw [expectedReplies_whole whole, expectedReplies_whole rest, count, goodReplies_succ]
    · have rest : ¬ address + 16 + (size - 16) ≤ m.size := by omega
      by_cases eeprom : m = .eeprom
      · rw [eeprom] at fits whole
        exact absurd fits whole
      · rw [NextFits.registers eeprom] at fits
        have count : (m.size - address) / 16 = (m.size - (address + 16)) / 16 + 1 := by omega
        have place : address + 16 * ((m.size - (address + 16)) / 16 + 1) =
            address + 16 + 16 * ((m.size - (address + 16)) / 16) := by omega
        rw [expectedReplies_registers eeprom whole, expectedReplies_registers eeprom rest, count,
          goodReplies_succ, place, List.cons_append]

theorem expectedReplies_refused {m : Memory} {sent : Nat → Nat → List UInt8}
    {address size : Nat} (crosses : ¬ NextFits m address size) :
    expectedReplies m sent address size = [refusedReply m address] := by
  by_cases eeprom : m = .eeprom
  · rw [eeprom] at crosses ⊢
    exact if_neg crosses
  · rw [NextFits.registers eeprom] at crosses
    have none : (m.size - address) / 16 = 0 := by omega
    rw [expectedReplies_registers eeprom (by omega), none]
    rfl

namespace Session

def sentFrom (memory : Nat → UInt8) (wiimote : Session) (m : Memory) (address size : Nat) :
    List UInt8 :=
  if m = .extension ∧ wiimote.extensionRegs encryptionOffset = encryptionEnabled then
    encryptedRegs memory wiimote.extensionRegs address size
  else (wiimote.memory m).read address size

/-- The replies that the read in progress still calls for. -/
def remaining (memory : Nat → UInt8) (wiimote : Session) (m : Memory) : List ReadReply :=
  if wiimote.readRequest.size = 0 then []
  else
    expectedReplies m (wiimote.sentFrom memory m) wiimote.readRequest.address.toNat
      wiimote.readRequest.size.toNat

def target (wiimote : Session) : Option Memory :=
  targetMemory wiimote.readRequest.space wiimote.readRequest.slaveAddress

theorem sentFrom_length (memory : Nat → UInt8) (wiimote : Session) (m : Memory)
    (address size : Nat) : (wiimote.sentFrom memory m address size).length = size := by
  unfold sentFrom
  split
  · exact encryptedRegs_length _ _ _ _
  · exact Registers.read_length _ _ _

end Session

theorem targetMemory_cases {space slave : UInt8} {m : Memory}
    (target : targetMemory space slave = some m) :
    (space = addressSpaceEeprom ∧ m = .eeprom) ∨
    (space ≠ addressSpaceEeprom ∧ (space = addressSpaceI2cBus ∨ space = addressSpaceI2cBusAlt) ∧
      ((slave = extensionI2cAddr ∧ m = .extension) ∨ (slave = cameraI2cAddr ∧ m = .camera))) := by
  unfold targetMemory at target
  by_cases eeprom : space = addressSpaceEeprom
  · rw [if_pos eeprom] at target
    exact Or.inl ⟨eeprom, (Option.some.inj target).symm⟩
  · rw [if_neg eeprom] at target
    by_cases bus : space = addressSpaceI2cBus ∨ space = addressSpaceI2cBusAlt
    · rw [if_pos bus] at target
      refine Or.inr ⟨eeprom, bus, ?_⟩
      by_cases extension : slave = extensionI2cAddr
      · rw [if_pos extension] at target
        exact Or.inl ⟨extension, (Option.some.inj target).symm⟩
      · rw [if_neg extension] at target
        by_cases camera : slave = cameraI2cAddr
        · rw [if_pos camera] at target
          exact Or.inr ⟨camera, (Option.some.inj target).symm⟩
        · rw [if_neg camera] at target
          cases target
    · rw [if_neg bus] at target
      cases target

theorem readSize_toNat (wiimote : Session) :
    wiimote.readSize = min 16 wiimote.readRequest.size.toNat := rfl

theorem readMemory_good {memory : Nat → UInt8} {wiimote : Session} {m : Memory}
    (coherent : wiimote.Coherent memory) (target : wiimote.target = some m)
    (fits : NextFits m wiimote.readRequest.address.toNat wiimote.readRequest.size.toNat) :
    ∃ after, Device.readMemory memory wiimote wiimote.readSize = (errorCodeSuccess, after,
      wiimote.sentFrom memory m wiimote.readRequest.address.toNat wiimote.readSize) := by
  unfold Device.readMemory
  dsimp only
  rcases targetMemory_cases target with ⟨space, rfl⟩ |
    ⟨space, bus, ⟨slave, rfl⟩ | ⟨slave, rfl⟩⟩
  · have small : ¬ eepromFreeSize <
        wiimote.readRequest.address.toNat + wiimote.readRequest.size.toNat := Nat.not_lt.mpr fits
    rw [if_pos space, if_neg small]
    refine ⟨wiimote, ?_⟩
    unfold Session.sentFrom
    rw [if_neg (fun both => by cases both.1)]
    rfl
  · have room : wiimote.readRequest.address.toNat + wiimote.readSize ≤ extensionRegsSize := fits
    rw [if_neg space, if_pos bus, slave, if_neg (by decide), if_pos rfl]
    unfold Session.sentFrom
    by_cases enabled : wiimote.extensionRegs encryptionOffset = encryptionEnabled
    · obtain ⟨after, read⟩ := extensionReadData_encrypted coherent room enabled
      rw [read, if_pos ⟨rfl, enabled⟩]
      exact ⟨after, rfl⟩
    · have read : wiimote.extensionReadData memory wiimote.readRequest.address.toNat
          wiimote.readSize = some (wiimote, wiimote.extensionRegs.read
            wiimote.readRequest.address.toNat wiimote.readSize) := by
        unfold Session.extensionReadData
        dsimp only
        rw [if_neg (Nat.not_lt.mpr room), if_neg enabled]
      rw [read, if_neg (fun both => enabled both.2)]
      exact ⟨wiimote, rfl⟩
  · have room : wiimote.readRequest.address.toNat + wiimote.readSize ≤ irRegsSize := fits
    have read : wiimote.irCameraReadData wiimote.readRequest.address.toNat wiimote.readSize =
        some (wiimote.irRegs.read wiimote.readRequest.address.toNat wiimote.readSize) :=
      if_neg (Nat.not_lt.mpr room)
    rw [if_neg space, if_pos bus, slave, if_neg (by decide), if_neg (by decide), if_pos rfl, read]
    refine ⟨wiimote, ?_⟩
    unfold Session.sentFrom
    rw [if_neg (fun both => by cases both.1)]
    rfl

theorem readMemory_refused (memory : Nat → UInt8) {wiimote : Session} {m : Memory}
    (target : wiimote.target = some m)
    (crosses : ¬ NextFits m wiimote.readRequest.address.toNat wiimote.readRequest.size.toNat) :
    Device.readMemory memory wiimote wiimote.readSize = (m.refusal, wiimote, []) := by
  unfold Device.readMemory
  dsimp only
  rcases targetMemory_cases target with ⟨space, rfl⟩ |
    ⟨space, bus, ⟨slave, rfl⟩ | ⟨slave, rfl⟩⟩
  · have beyond : eepromFreeSize <
        wiimote.readRequest.address.toNat + wiimote.readRequest.size.toNat :=
      Nat.lt_of_not_le crosses
    rw [if_pos space, if_pos beyond]
    rfl
  · have beyond : extensionRegsSize < wiimote.readRequest.address.toNat + wiimote.readSize :=
      Nat.lt_of_not_le crosses
    have failed : wiimote.extensionReadData memory wiimote.readRequest.address.toNat
        wiimote.readSize = none := if_pos beyond
    rw [if_neg space, if_pos bus, slave, if_neg (by decide), if_pos rfl, failed]
    rfl
  · have beyond : irRegsSize < wiimote.readRequest.address.toNat + wiimote.readSize :=
      Nat.lt_of_not_le crosses
    have failed : wiimote.irCameraReadData wiimote.readRequest.address.toNat wiimote.readSize =
        none := if_pos beyond
    rw [if_neg space, if_pos bus, slave, if_neg (by decide), if_neg (by decide), if_pos rfl, failed]
    rfl

theorem sizeError_fields {size : Nat} {error : UInt8} (small : size < 16)
    (code : error.toNat < 16) :
    (((UInt8.ofNat size <<< (4 : UInt8)) ||| error) &&& (15 : UInt8) = error) ∧
      (((UInt8.ofNat size <<< (4 : UInt8)) ||| error) >>> (4 : UInt8)).toNat = size := by
  have all : ∀ size < 16, ∀ error < 16,
      (((UInt8.ofNat size <<< (4 : UInt8)) ||| UInt8.ofNat error) &&& (15 : UInt8) =
        UInt8.ofNat error) ∧
      (((UInt8.ofNat size <<< (4 : UInt8)) ||| UInt8.ofNat error) >>> (4 : UInt8)).toNat = size := by
    decide
  have fields := all size small error.toNat code
  rw [UInt8.ofNat_toNat] at fields
  exact fields

theorem readReply_chunk {retval : Int} {handle buttons address : UInt16} {wiimote : Session}
    {size : Nat} {error : UInt8} {data : List UInt8} (nonzero : size ≠ 0) (small : size ≤ 16)
    (code : error.toNat < 16) (whole : data.length = 16) :
    readReply ⟨retval, inputReportPacket handle wiimote inputReportIdReadDataReply
      (bytes16 buttons ++ [(UInt8.ofNat (size - 1) <<< (4 : UInt8)) ||| error] ++
        bytes16 address ++ data)⟩ = some ⟨error, address, data.take size⟩ := by
  have read : readReply ⟨retval, inputReportPacket handle wiimote inputReportIdReadDataReply
      (bytes16 buttons ++ [(UInt8.ofNat (size - 1) <<< (4 : UInt8)) ||| error] ++
        bytes16 address ++ data)⟩ =
      if inputReportIdReadDataReply = inputReportIdReadDataReply ∧ data.length = 16 then
        some ⟨((UInt8.ofNat (size - 1) <<< (4 : UInt8)) ||| error) &&& (15 : UInt8),
          word16 (highByte address) (lowByte address),
          data.take ((((UInt8.ofNat (size - 1) <<< (4 : UInt8)) ||| error) >>>
            (4 : UInt8)).toNat + 1)⟩
      else none := rfl
  have less : size - 1 < 16 := by omega
  have same : size - 1 + 1 = size := by omega
  obtain ⟨errorField, sizeField⟩ := sizeError_fields less code
  rw [read, if_pos ⟨rfl, whole⟩, errorField, sizeField, word16_bytes, same]

structure SameMemory (before after : Session) : Prop where
  memory : ∀ m, after.memory m = before.memory m
  target : after.target = before.target

theorem SameMemory.refl (wiimote : Session) : SameMemory wiimote wiimote := ⟨fun _ => rfl, rfl⟩

theorem SameMemory.trans {first second third : Session} (one : SameMemory first second)
    (two : SameMemory second third) : SameMemory first third :=
  ⟨fun m => (two.memory m).trans (one.memory m), two.target.trans one.target⟩

theorem SameMemory.sentFrom {before after : Session} (same : SameMemory before after)
    (memory : Nat → UInt8) (m : Memory) : after.sentFrom memory m = before.sentFrom memory m := by
  have regs : after.extensionRegs = before.extensionRegs := same.memory .extension
  funext address size
  unfold Session.sentFrom
  rw [regs, same.memory]

theorem chunk_next {memory : Nat → UInt8} {wiimote : Session} {m : Memory}
    (coherent : wiimote.Coherent memory) (target : wiimote.target = some m)
    (pending : wiimote.readRequest.size ≠ 0) :
    ∃ reply, wiimote.remaining memory m = reply :: (wiimote.afterChunk memory).remaining memory m ∧
      SameMemory wiimote (wiimote.afterChunk memory) ∧
      ∀ retval handle sender, readReply ⟨retval, inputReportPacket handle sender
        inputReportIdReadDataReply (wiimote.chunkBody memory)⟩ = some reply := by
  have nonzero : wiimote.readRequest.size.toNat ≠ 0 :=
    fun none => pending (UInt16.toNat_inj.mp none)
  have positive : wiimote.readSize ≠ 0 := by
    rw [readSize_toNat]
    omega
  have most : wiimote.readSize ≤ 16 := Nat.min_le_left _ _
  have same : SameMemory wiimote (wiimote.afterChunk memory) := by
    obtain ⟨key, dirty, request, after⟩ := afterChunk_session memory wiimote
    rcases reading : Device.readMemory memory wiimote wiimote.readSize with ⟨error, read, data⟩
    refine ⟨fun m => ?_, ?_⟩
    · rw [after]
      cases m <;> rfl
    · unfold Session.target
      rw [afterChunk_request reading]
      split <;> rfl
  by_cases fits : NextFits m wiimote.readRequest.address.toNat wiimote.readRequest.size.toNat
  · obtain ⟨after, reading⟩ := readMemory_good coherent target fits
    refine ⟨goodReply (wiimote.sentFrom memory m) wiimote.readRequest.address.toNat
      wiimote.readSize, ?_, same, ?_⟩
    · have left : (wiimote.afterChunk memory).remaining memory m =
          if wiimote.readRequest.size.toNat ≤ 16 then [] else
            expectedReplies m (wiimote.sentFrom memory m)
              (wiimote.readRequest.address.toNat + 16) (wiimote.readRequest.size.toNat - 16) := by
        unfold Session.remaining
        rw [same.sentFrom, afterChunk_request reading, if_neg (not_not.mpr rfl)]
        dsimp only
        by_cases last : wiimote.readRequest.size.toNat ≤ 16
        · have whole : UInt16.ofNat wiimote.readSize = wiimote.readRequest.size := by
            rw [readSize_toNat, Nat.min_eq_right last, UInt16.ofNat_toNat]
          rw [if_pos last, whole, UInt16.sub_self]
          exact if_pos rfl
        · have sixteen : wiimote.readSize = 16 := Nat.min_eq_left (by omega)
          have address : (wiimote.readRequest.address + UInt16.ofNat 16).toNat =
              wiimote.readRequest.address.toNat + 16 := by
            have bound := fits.bound nonzero
            have reach := m.size_le
            rw [UInt16.toNat_add]
            change (wiimote.readRequest.address.toNat + 16) % 65536 = _
            omega
          have size : (wiimote.readRequest.size - UInt16.ofNat 16).toNat =
              wiimote.readRequest.size.toNat - 16 := by
            apply UInt16.toNat_sub_of_le
            rw [UInt16.le_iff_toNat_le]
            change 16 ≤ wiimote.readRequest.size.toNat
            omega
          rw [if_neg last, sixteen, address, size, if_neg]
          intro done
          have none : (wiimote.readRequest.size - UInt16.ofNat 16).toNat = 0 :=
            congrArg UInt16.toNat done
          omega
      rw [left]
      exact (if_neg pending).trans (expectedReplies_good nonzero fits)
    · intro retval handle sender
      have length := wiimote.sentFrom_length memory m wiimote.readRequest.address.toNat
        wiimote.readSize
      rw [Device.chunkBody_of_read reading, if_neg (not_not.mpr rfl), List.append_assoc]
      rw [readReply_chunk positive most (by decide), goodReply, UInt16.ofNat_toNat]
      · rw [List.take_append_of_le_length (Nat.le_of_eq length.symm),
          List.take_of_length_le (Nat.le_of_eq length)]
      · rw [List.length_append, List.length_replicate]
        omega
  · have reading := readMemory_refused memory target fits
    refine ⟨refusedReply m wiimote.readRequest.address.toNat, ?_, same, ?_⟩
    · have left : (wiimote.afterChunk memory).remaining memory m = [] := by
        unfold Session.remaining
        rw [afterChunk_request reading, if_pos m.refusal_ne]
        exact if_pos rfl
      rw [left]
      exact (if_neg pending).trans (expectedReplies_refused fits)
    · intro retval handle sender
      have code : m.refusal.toNat < 16 := by
        cases m <;> decide
      rw [Device.chunkBody_of_read reading, if_pos m.refusal_ne, List.append_assoc]
      rw [readReply_chunk (by decide) (Nat.le_refl 16) code rfl, refusedReply, UInt16.ofNat_toNat]
      rfl

def decryptByte (key : WiimoteEncryptionKey) (address : Nat) (byte : UInt8) : UInt8 :=
  (byte ^^^ key.sb.getD (address % 8) 0) + key.ft.getD (address % 8) 0

theorem decryptByte_encryptByte (key : WiimoteEncryptionKey) (address : Nat) (byte : UInt8) :
    decryptByte key address (encryptByte key address byte) = byte := by
  unfold decryptByte encryptByte
  rw [UInt8.xor_assoc, UInt8.xor_self, UInt8.xor_zero, UInt8.sub_add_cancel]

/-- The bytes of a reply for the host, which decrypts them if they come from an extension that is
encrypted. -/
def Session.hostBytes (memory : Nat → UInt8) (wiimote : Session) (m : Memory) (reply : ReadReply) :
    List UInt8 :=
  if m = .extension ∧ wiimote.extensionRegs encryptionOffset = encryptionEnabled then
    reply.bytes.mapIdx fun offset byte =>
      decryptByte (derivedKey memory wiimote.extensionRegs) (reply.address.toNat + offset) byte
  else reply.bytes

theorem Session.hostBytes_good (memory : Nat → UInt8) (wiimote : Session) {m : Memory}
    {address size : Nat} (inside : address ≤ m.size) :
    wiimote.hostBytes memory m (goodReply (wiimote.sentFrom memory m) address size) =
      (wiimote.memory m).read address size := by
  have reach := m.size_le
  have place : (UInt16.ofNat address).toNat = address := by
    rw [UInt16.toNat_ofNat']
    omega
  unfold Session.hostBytes goodReply Session.sentFrom
  dsimp only
  by_cases encrypted : m = .extension ∧
      wiimote.extensionRegs encryptionOffset = encryptionEnabled
  · rw [if_pos encrypted, if_pos encrypted, encrypted.1, place]
    apply List.ext_getElem
    · simp
    · intro offset low high
      simp only [encryptedRegs, List.getElem_mapIdx, List.getElem_map, List.getElem_range,
        decryptByte_encryptByte, Registers.read]
      rfl
  · rw [if_neg encrypted, if_neg encrypted]

/-- Put together, the replies to a read that fits are the range. -/
theorem Session.hostBytes_whole (memory : Nat → UInt8) (wiimote : Session) {m : Memory}
    {address size : Nat} (fits : address + size ≤ m.size) :
    (expectedReplies m (wiimote.sentFrom memory m) address size).flatMap
      (wiimote.hostBytes memory m) = (wiimote.memory m).read address size := by
  rw [expectedReplies_whole fits, goodReplies, List.flatMap_map]
  have enough : size ≤ 16 * ((size + 15) / 16) := by omega
  rw [← (wiimote.memory m).read_chunks enough]
  apply List.flatMap_congr
  intro i member
  have bound := List.mem_range.mp member
  exact wiimote.hostBytes_good memory (by omega)

end Fakemote
