import Fakemote.InBounds
import Fakemote.SessionTrace

/-! Writes of the host to the memories of a Wiimote: which memory a request selects, what is stored
there, and what a read of the same range gives back. -/

namespace Fakemote

open Bytes Program

inductive Memory
  | eeprom
  | extension
  | camera
  deriving DecidableEq, Repr

namespace Memory

def size : Memory → Nat
  | .eeprom => eepromFreeSize
  | .extension => extensionRegsSize
  | .camera => irRegsSize

def refusal : Memory → UInt8
  | .eeprom => errorCodeInvalidAddress
  | .extension => errorCodeNack
  | .camera => errorCodeNack

theorem refusal_ne (m : Memory) : m.refusal ≠ errorCodeSuccess := by
  cases m with
  | eeprom => decide
  | extension => decide
  | camera => decide

end Memory

namespace Session

def memory (wiimote : Session) : Memory → Registers
  | .eeprom => wiimote.eeprom
  | .extension => wiimote.extensionRegs
  | .camera => wiimote.irRegs

/-- Bytes stored in a memory; those of the key area make the key stale. -/
def store (wiimote : Session) (address : Nat) (data : List UInt8) : Memory → Session
  | .eeprom => { wiimote with eeprom := wiimote.eeprom.write address data }
  | .extension =>
      { wiimote with
        extensionKeyDirty :=
          if encryptionKeyDataBegin < address + data.length ∧ address < encryptionKeyDataEnd then true
          else wiimote.extensionKeyDirty
        extensionRegs := wiimote.extensionRegs.write address data }
  | .camera => { wiimote with irRegs := wiimote.irRegs.write address data }

@[simp] theorem memory_store (wiimote : Session) (address : Nat) (data : List UInt8) (m : Memory) :
    (wiimote.store address data m).memory m = (wiimote.memory m).write address data := by
  cases m <;> rfl

theorem memory_store_other (wiimote : Session) (address : Nat) (data : List UInt8)
    {m other : Memory} (apart : other ≠ m) :
    (wiimote.store address data m).memory other = wiimote.memory other := by
  cases m <;> cases other <;> first | rfl | exact absurd rfl apart

end Session

def targetMemory (space slaveAddress : UInt8) : Option Memory :=
  if space = addressSpaceEeprom then some .eeprom
  else if space = addressSpaceI2cBus ∨ space = addressSpaceI2cBusAlt then
    if slaveAddress = extensionI2cAddr then some .extension
    else if slaveAddress = cameraI2cAddr then some .camera
    else none
  else none

/-- The error code of an access that selects no memory; that to a slave nobody answers for is a
success. -/
def unselected (space slaveAddress : UInt8) : UInt8 :=
  if space = addressSpaceI2cBus ∨ space = addressSpaceI2cBusAlt then
    if slaveAddress = eepromI2cAddr then errorCodeInvalidAddress else errorCodeSuccess
  else errorCodeInvalidSpace

theorem storesWrite_iff {space slave : UInt8} {address size : Nat} :
    Device.storesWrite space slave address size = true ↔
      ∃ m, targetMemory space slave = some m ∧ address + size ≤ m.size := by
  unfold Device.storesWrite targetMemory
  split
  · simp [Memory.size]
  · split
    · split
      · simp [Memory.size]
      · split <;> simp_all [Memory.size]
    · simp

theorem writeMemory_target (wiimote : Session) (write : Device.WriteRequest) :
    Device.writeMemory wiimote write =
      match targetMemory write.space write.slaveAddress with
      | some m =>
          if m.size < write.address.toNat + write.data.length then (m.refusal, wiimote)
          else (errorCodeSuccess, wiimote.store write.address.toNat write.data m)
      | none => (unselected write.space write.slaveAddress, wiimote) := by
  unfold Device.writeMemory targetMemory unselected
  dsimp only
  by_cases eeprom : write.space = addressSpaceEeprom
  · rw [if_pos eeprom, if_pos eeprom]
    rfl
  by_cases bus : write.space = addressSpaceI2cBus ∨ write.space = addressSpaceI2cBusAlt
  · rw [if_neg eeprom, if_neg eeprom, if_pos bus, if_pos bus, if_pos bus]
    by_cases extension : write.slaveAddress = extensionI2cAddr
    · have direct : write.slaveAddress ≠ eepromI2cAddr := by
        rw [extension]
        decide
      rw [if_neg direct, if_pos extension, if_pos extension]
      by_cases large : extensionRegsSize < write.address.toNat + write.data.length
      · have failed : wiimote.extensionWriteData write.data write.address.toNat = none :=
          if_pos large
        rw [failed]
        exact (if_pos large).symm
      · have stored : wiimote.extensionWriteData write.data write.address.toNat =
            some (wiimote.store write.address.toNat write.data .extension) := if_neg large
        rw [stored]
        exact (if_neg large).symm
    by_cases camera : write.slaveAddress = cameraI2cAddr
    · have direct : write.slaveAddress ≠ eepromI2cAddr := by
        rw [camera]
        decide
      rw [if_neg direct, if_neg extension, if_pos camera, if_neg extension, if_pos camera]
      by_cases large : irRegsSize < write.address.toNat + write.data.length
      · have failed : wiimote.irCameraWriteData write.data write.address.toNat = none :=
          if_pos large
        rw [failed]
        exact (if_pos large).symm
      · have stored : wiimote.irCameraWriteData write.data write.address.toNat =
            some (wiimote.store write.address.toNat write.data .camera) := if_neg large
        rw [stored]
        exact (if_neg large).symm
    · rw [if_neg extension, if_neg camera, if_neg extension, if_neg camera]
      split
      · rfl
      · rfl
  · rw [if_neg eeprom, if_neg eeprom, if_neg bus, if_neg bus, if_neg bus]

theorem readMemory_target (memory : Nat → UInt8) (wiimote : Session) {size : UInt16} {m : Memory}
    (target : targetMemory wiimote.readRequest.space wiimote.readRequest.slaveAddress = some m)
    (whole : wiimote.readRequest.size = size)
    (fits : wiimote.readRequest.address.toNat + size.toNat ≤ m.size)
    (plain : m = .extension → wiimote.extensionRegs encryptionOffset ≠ encryptionEnabled) :
    Device.readMemory memory wiimote size.toNat = (errorCodeSuccess, wiimote,
      (wiimote.memory m).read wiimote.readRequest.address.toNat size.toNat) := by
  unfold targetMemory at target
  unfold Device.readMemory
  dsimp only
  by_cases eeprom : wiimote.readRequest.space = addressSpaceEeprom
  · rw [if_pos eeprom] at target ⊢
    cases target
    have small : ¬ eepromFreeSize < wiimote.readRequest.address.toNat + size.toNat :=
      Nat.not_lt.mpr fits
    rw [whole, if_neg small]
    rfl
  by_cases bus : wiimote.readRequest.space = addressSpaceI2cBus ∨
      wiimote.readRequest.space = addressSpaceI2cBusAlt
  · rw [if_neg eeprom, if_pos bus] at target ⊢
    by_cases extension : wiimote.readRequest.slaveAddress = extensionI2cAddr
    · have direct : wiimote.readRequest.slaveAddress ≠ eepromI2cAddr := by
        rw [extension]
        decide
      rw [if_pos extension] at target
      cases target
      have read : wiimote.extensionReadData memory wiimote.readRequest.address.toNat size.toNat =
          some (wiimote,
            wiimote.extensionRegs.read wiimote.readRequest.address.toNat size.toNat) := by
        have small : ¬ extensionRegsSize < wiimote.readRequest.address.toNat + size.toNat :=
          Nat.not_lt.mpr fits
        unfold Session.extensionReadData
        dsimp only
        rw [if_neg small, if_neg (plain rfl)]
      rw [if_neg direct, if_pos extension, read]
      rfl
    rw [if_neg extension] at target
    by_cases camera : wiimote.readRequest.slaveAddress = cameraI2cAddr
    · have direct : wiimote.readRequest.slaveAddress ≠ eepromI2cAddr := by
        rw [camera]
        decide
      rw [if_pos camera] at target
      cases target
      have small : ¬ irRegsSize < wiimote.readRequest.address.toNat + size.toNat :=
        Nat.not_lt.mpr fits
      have read : wiimote.irCameraReadData wiimote.readRequest.address.toNat size.toNat =
          some (wiimote.irRegs.read wiimote.readRequest.address.toNat size.toNat) := if_neg small
      rw [if_neg direct, if_neg extension, if_pos camera, read]
      rfl
    · rw [if_neg camera] at target
      cases target
  · rw [if_neg eeprom, if_neg bus] at target
    cases target

/-- A write-data report after its id, as `wiimote_output_report_write_data_t` lays it out. -/
structure WriteReport where
  flags : UInt8
  slave : UInt8
  address : UInt16
  size : UInt8
  data : List UInt8
  whole : data.length = 16

namespace WriteReport

def bytes (report : WriteReport) : List UInt8 :=
  [report.flags, report.slave] ++ bytes16 report.address ++ [report.size] ++ report.data

def space (report : WriteReport) : UInt8 := (report.flags >>> (2 : UInt8)) &&& (3 : UInt8)

def slaveAddress (report : WriteReport) : UInt8 := report.slave >>> (1 : UInt8)

def written (report : WriteReport) : List UInt8 := report.data.take report.size.toNat

def request (report : WriteReport) : Device.WriteRequest :=
  ⟨report.space, report.slaveAddress, report.address, report.written⟩

def target (report : WriteReport) : Option Memory :=
  targetMemory report.space report.slaveAddress

variable (report : WriteReport)

theorem written_length (most : report.size.toNat ≤ 16) :
    report.written.length = report.size.toNat := by
  rw [written, List.length_take, report.whole]
  exact Nat.min_eq_left most

variable (after : List UInt8)

theorem flagsAt : load8 (report.bytes ++ after) 0 = .ok report.flags := rfl

theorem slaveAt : load8 (report.bytes ++ after) 1 = .ok report.slave := rfl

theorem addressAt : load16 (report.bytes ++ after) 2 = .ok report.address :=
  load16_of_bytes rfl rfl

theorem sizeAt : load8 (report.bytes ++ after) 4 = .ok report.size := rfl

theorem dataAt (most : report.size.toNat ≤ 16) :
    loadBytes (report.bytes ++ after) 5 report.size.toNat = .ok report.written := by
  have whole := report.whole
  have room : 5 + report.size.toNat ≤ (report.bytes ++ after).length := by
    simp only [bytes, List.length_append, List.length_cons, List.length_nil, bytes16_length, whole]
    omega
  have rest : (report.bytes ++ after).drop 5 = report.data ++ after := rfl
  unfold loadBytes Bytes.loadBytes
  rw [if_pos room, rest, List.take_append_of_le_length (by omega)]
  rfl

end WriteReport

/-- The data that the write is done with: the report's when it is stored, and as many bytes in any
case. -/
theorem writeMemory_writeData (wiimote : Session) (report : WriteReport) (after : List UInt8)
    (most : report.size.toNat ≤ 16) :
    ∃ data, Device.writeData (report.bytes ++ after) (Device.storesWrite report.space
        report.slaveAddress report.address.toNat report.size.toNat) report.size.toNat = .ok data ∧
      Device.writeMemory wiimote ⟨report.space, report.slaveAddress, report.address, data⟩ =
        Device.writeMemory wiimote report.request := by
  unfold Device.writeData
  by_cases stored : Device.storesWrite report.space report.slaveAddress report.address.toNat
      report.size.toNat = true
  · rw [if_pos stored, report.dataAt after most]
    exact ⟨_, rfl, rfl⟩
  · rw [if_neg stored]
    refine ⟨_, rfl, ?_⟩
    have refused (m : Memory)
        (target : targetMemory report.space report.slaveAddress = some m) :
        m.size < report.address.toNat + report.size.toNat := by
      by_contra fits
      exact stored (storesWrite_iff.mpr ⟨m, target, Nat.not_lt.mp fits⟩)
    rw [writeMemory_target, writeMemory_target]
    simp only [WriteReport.request]
    cases target : targetMemory report.space report.slaveAddress with
    | none => rfl
    | some m =>
        have large := refused m target
        simp only [List.length_replicate, report.written_length most, large, if_true]

theorem processWriteRequest_ignored (dev : Device) (p : Periphery) (report : WriteReport)
    (after : List UInt8) (ignored : report.size.toNat = 0 ∨ 16 < report.size.toNat) :
    dev.fakeWiimoteProcessWriteRequest (report.bytes ++ after) p = .ok ((), p) := by
  unfold Device.fakeWiimoteProcessWriteRequest
  rw [report.sizeAt, bind_run (lift_run_ok _ p), if_pos ignored]
  rfl

theorem processWriteRequest_run (dev : Device) (p : Periphery) (report : WriteReport)
    (after : List UInt8) (some : report.size.toNat ≠ 0) (most : report.size.toNat ≤ 16) :
    dev.fakeWiimoteProcessWriteRequest (report.bytes ++ after) p =
      (dev.wiimoteSendAck outputReportIdWriteData
        (Device.writeMemory (p.sessions dev.self) report.request).1 >>= fun _ => pure ())
        { p with
          sessions := Function.update p.sessions dev.self
            (Device.writeMemory (p.sessions dev.self) report.request).2 } := by
  obtain ⟨data, loaded, same⟩ := writeMemory_writeData (p.sessions dev.self) report after most
  unfold Device.fakeWiimoteProcessWriteRequest
  rw [report.sizeAt, bind_run (lift_run_ok _ p), if_neg (by omega), report.flagsAt,
    bind_run (lift_run_ok _ p), report.slaveAt, bind_run (lift_run_ok _ p), report.addressAt,
    bind_run (lift_run_ok _ p)]
  have read : Device.writeData (report.bytes ++ after) (Device.storesWrite
      ((report.flags >>> (2 : UInt8)) &&& (3 : UInt8)) (report.slave >>> (1 : UInt8))
      report.address.toNat report.size.toNat) report.size.toNat = .ok data := loaded
  dsimp only
  rw [read, bind_run (lift_run_ok _ p)]
  have got : getSession dev.self p = .ok (p.sessions dev.self, p) := rfl
  rw [bind_run got]
  have outcome : Device.writeMemory (p.sessions dev.self)
      ⟨(report.flags >>> (2 : UInt8)) &&& (3 : UInt8), report.slave >>> (1 : UInt8),
        report.address, data⟩ = Device.writeMemory (p.sessions dev.self) report.request := same
  rw [outcome]
  rcases Device.writeMemory (p.sessions dev.self) report.request with ⟨error, wiimote⟩
  rfl

theorem processReadRequest_run (dev : Device) (q : Periphery) {wiimote : Session}
    {data : List UInt8} {size : UInt16} (whole : (q.sessions dev.self).readRequest.size = size)
    (some : size.toNat ≠ 0) (most : size.toNat ≤ 16)
    (read : Device.readMemory q.platform.memory (q.sessions dev.self) size.toNat =
      (errorCodeSuccess, wiimote, data)) :
    ∃ done, dev.fakeWiimoteProcessReadRequest q =
      (dev.sendHidInputReport inputReportIdReadDataReply
        (bytes16 wiimote.buttons ++
          [(UInt8.ofNat (size.toNat - 1) <<< (4 : UInt8)) ||| errorCodeSuccess] ++
          bytes16 (q.sessions dev.self).readRequest.address ++ data ++
          List.replicate (16 - data.length) 0) >>= fun _ => pure true)
        { q with sessions :=
            Function.update q.sessions dev.self { wiimote with readRequest := done } } := by
  have step : min 16 (q.sessions dev.self).readRequest.size.toNat = size.toNat := by
    rw [whole]
    exact Nat.min_eq_right most
  unfold Device.fakeWiimoteProcessReadRequest
  rw [bind_run (get_run q)]
  dsimp only
  rw [step, if_neg some, read]
  have success : ¬ errorCodeSuccess ≠ errorCodeSuccess := not_not.mpr rfl
  dsimp only
  rw [if_neg success, if_neg success]
  refine ⟨{ wiimote.readRequest with
    address := wiimote.readRequest.address + UInt16.ofNat size.toNat
    size := wiimote.readRequest.size - UInt16.ofNat size.toNat }, ?_⟩
  unfold modifySession
  rw [bind_run (modify_run _ q)]

/-- A write to a memory succeeds when its range lies in it. Nothing is changed by a refused write
or one that selects no memory; any other changes the bytes of its range and no other byte. -/
structure WritesExactly (report : WriteReport) (error : UInt8) (before after : Session) : Prop where
  answer : ∀ m, report.target = some m →
    (error = errorCodeSuccess ↔ report.address.toNat + report.size.toNat ≤ m.size)
  refused : error ≠ errorCodeSuccess ∨ report.target = none →
    ∀ m, after.memory m = before.memory m
  stored : ∀ m, report.target = some m → error = errorCodeSuccess →
    report.address.toNat + report.size.toNat ≤ m.size ∧
    (∀ index, after.memory m index =
      if report.address.toNat ≤ index ∧ index < report.address.toNat + report.size.toNat then
        report.data.getD (index - report.address.toNat) 0
      else before.memory m index) ∧
    ∀ other, other ≠ m → after.memory other = before.memory other

theorem writeMemory_request (report : WriteReport) (most : report.size.toNat ≤ 16)
    (wiimote : Session) :
    Device.writeMemory wiimote report.request =
      match report.target with
      | some m =>
          if m.size < report.address.toNat + report.size.toNat then (m.refusal, wiimote)
          else (errorCodeSuccess, wiimote.store report.address.toNat report.written m)
      | none => (unselected report.space report.slaveAddress, wiimote) := by
  have outcome := writeMemory_target wiimote report.request
  simp only [WriteReport.request, report.written_length most] at outcome
  exact outcome

theorem writeMemory_fits {report : WriteReport} (most : report.size.toNat ≤ 16) {m : Memory}
    (target : report.target = some m) (fits : report.address.toNat + report.size.toNat ≤ m.size)
    (wiimote : Session) :
    Device.writeMemory wiimote report.request =
      (errorCodeSuccess, wiimote.store report.address.toNat report.written m) := by
  rw [writeMemory_request report most, target]
  exact if_neg (Nat.not_lt.mpr fits)

theorem writeMemory_large {report : WriteReport} (most : report.size.toNat ≤ 16) {m : Memory}
    (target : report.target = some m) (large : m.size < report.address.toNat + report.size.toNat)
    (wiimote : Session) : Device.writeMemory wiimote report.request = (m.refusal, wiimote) := by
  rw [writeMemory_request report most, target]
  exact if_pos large

theorem writesExactly (report : WriteReport) (most : report.size.toNat ≤ 16) (wiimote : Session) :
    WritesExactly report (Device.writeMemory wiimote report.request).1 wiimote
      (Device.writeMemory wiimote report.request).2 := by
  cases target : report.target with
  | none =>
      rw [writeMemory_request report most, target]
      have unselected (m : Memory) : report.target ≠ some m := by
        rw [target]
        exact nofun
      exact ⟨fun m selected => absurd selected (unselected m), fun _ m => rfl,
        fun m selected => absurd selected (unselected m)⟩
  | some m =>
      by_cases large : m.size < report.address.toNat + report.size.toNat
      · rw [writeMemory_large most target large]
        refine ⟨?_, fun _ m => rfl, fun other _ success => absurd success m.refusal_ne⟩
        intro other same
        rw [target, Option.some.injEq] at same
        subst other
        exact ⟨fun success => absurd success m.refusal_ne,
          fun fits => absurd large (Nat.not_lt.mpr fits)⟩
      · rw [writeMemory_fits most target (Nat.not_lt.mp large)]
        refine ⟨?_, ?_, ?_⟩
        · intro other same
          rw [target, Option.some.injEq] at same
          subst other
          exact ⟨fun _ => Nat.not_lt.mp large, fun _ => rfl⟩
        · intro failed
          rw [target] at failed
          rcases failed with failed | none
          · exact absurd rfl failed
          · cases none
        · intro selected same _
          rw [target, Option.some.injEq] at same
          subst selected
          refine ⟨Nat.not_lt.mp large, ?_, fun other apart => wiimote.memory_store_other _ _ apart⟩
          intro index
          rw [Session.memory_store, Registers.write, report.written_length most]
          split
          · rename_i inside
            have taken : index - report.address.toNat < report.size.toNat := by omega
            rw [WriteReport.written, List.getD_eq_getElem?_getD, List.getElem?_take_of_lt taken,
              List.getD_eq_getElem?_getD]
          · rfl

def WriteReport.readRequest (report : WriteReport) : ReadRequest :=
  ⟨report.space, report.slaveAddress, report.address, UInt16.ofNat report.size.toNat⟩

/-- A read of the range, in a state that has the memory as the write left it, answers with the
written bytes. -/
def ReadsBack (dev : Device) (report : WriteReport) (m : Memory) (left : Registers) : Prop :=
  ∀ q : Periphery, (q.sessions dev.self).memory m = left →
    (q.sessions dev.self).readRequest = report.readRequest →
    (m = .extension → (q.sessions dev.self).extensionRegs encryptionOffset ≠ encryptionEnabled) →
    ∃ done, dev.fakeWiimoteProcessReadRequest q =
      (dev.sendHidInputReport inputReportIdReadDataReply
        (bytes16 (q.sessions dev.self).buttons ++
          [(UInt8.ofNat (report.size.toNat - 1) <<< (4 : UInt8)) ||| errorCodeSuccess] ++
          bytes16 report.address ++ report.written ++ List.replicate (16 - report.size.toNat) 0) >>=
        fun _ => pure true)
        { q with
          sessions := Function.update q.sessions dev.self
            { q.sessions dev.self with readRequest := done } }

theorem readsBack (dev : Device) (report : WriteReport) {m : Memory} {before : Session}
    (nonzero : report.size.toNat ≠ 0) (most : report.size.toNat ≤ 16)
    (target : report.target = some m) (fits : report.address.toNat + report.size.toNat ≤ m.size) :
    ReadsBack dev report m ((before.memory m).write report.address.toNat report.written) := by
  intro q left asked plain
  have size : (UInt16.ofNat report.size.toNat).toNat = report.size.toNat :=
    UInt16.toNat_ofNat_of_lt' (show report.size.toNat < 65536 by omega)
  have length := report.written_length most
  have read := @readMemory_target q.platform.memory (q.sessions dev.self)
    (UInt16.ofNat report.size.toNat) m (by rw [asked]; exact target) (by rw [asked]; rfl)
    (by rw [asked, size]; exact fits) plain
  have data : ((q.sessions dev.self).memory m).read
      (q.sessions dev.self).readRequest.address.toNat report.size.toNat = report.written := by
    have same := Registers.read_write_same (before.memory m) report.address.toNat report.written
    rw [length] at same
    rw [left, asked]
    exact same
  rw [size, data] at read
  obtain ⟨done, run⟩ := @processReadRequest_run dev q _ _ (UInt16.ofNat report.size.toNat)
    (by rw [asked]; rfl) (by rw [size]; exact nonzero) (by rw [size]; exact most)
    (by rw [size]; exact read)
  rw [size, asked, length] at run
  exact ⟨done, run⟩

/-- A write of up to sixteen bytes is answered by one ack and is exact; any other is ignored. The
report may be followed by other bytes in memory. -/
theorem memory_writes_exact (dev : Device) (p : Periphery) (report : WriteReport)
    (after : List UInt8) :
    (report.size.toNat = 0 ∨ 16 < report.size.toNat →
      dev.fakeWiimoteProcessWriteRequest (report.bytes ++ after) p = .ok ((), p)) ∧
    (report.size.toNat ≠ 0 → report.size.toNat ≤ 16 →
      ∃ error wiimote,
        dev.fakeWiimoteProcessWriteRequest (report.bytes ++ after) p =
          (dev.wiimoteSendAck outputReportIdWriteData error >>= fun _ => pure ())
            { p with sessions := Function.update p.sessions dev.self wiimote } ∧
        WritesExactly report error (p.sessions dev.self) wiimote ∧
        ∀ m, report.target = some m → error = errorCodeSuccess →
          ReadsBack dev report m (wiimote.memory m)) := by
  refine ⟨processWriteRequest_ignored dev p report after, ?_⟩
  intro nonzero most
  have exactly := writesExactly report most (p.sessions dev.self)
  refine ⟨_, _, processWriteRequest_run dev p report after nonzero most, exactly, ?_⟩
  intro m target success
  have fits := (exactly.stored m target success).1
  rw [writeMemory_fits most target fits, Session.memory_store]
  exact readsBack dev report nonzero most target fits

/-- Two bytes at the end of what the host can reach of the EEPROM, and seventeen bytes. -/
theorem memory_writes_exact_eeprom_end :
    (∃ error wiimote,
      Device.fakeWiimoteProcessWriteRequest ⟨(World.init .lenient).core, 0⟩
          ([0, 0, 0x16, 0xFE, 2] ++ List.replicate 16 0xAB) (World.init .lenient).periphery =
        (Device.wiimoteSendAck ⟨(World.init .lenient).core, 0⟩ outputReportIdWriteData error >>=
          fun _ => pure ())
          { (World.init .lenient).periphery with
            sessions := Function.update (World.init .lenient).periphery.sessions 0 wiimote } ∧
      error = errorCodeSuccess ∧ wiimote.eeprom 0x16FF = 0xAB ∧ wiimote.eeprom 0x1700 = 0) ∧
    Device.fakeWiimoteProcessWriteRequest ⟨(World.init .lenient).core, 0⟩
        ([0, 0, 0x16, 0xFE, 17] ++ List.replicate 16 0xAB) (World.init .lenient).periphery =
      .ok ((), (World.init .lenient).periphery) := by
  constructor
  · obtain ⟨error, wiimote, run, exactly, -⟩ := (memory_writes_exact
      ⟨(World.init .lenient).core, 0⟩ (World.init .lenient).periphery
      ⟨0, 0, 0x16FE, 2, List.replicate 16 0xAB, rfl⟩ []).2 (by decide) (by decide)
    have success := (exactly.answer .eeprom rfl).mpr (by decide)
    refine ⟨error, wiimote, run, success, ?_⟩
    have bytes := (exactly.stored .eeprom rfl success).2.1
    exact ⟨(bytes 0x16FF).trans (by decide), (bytes 0x1700).trans rfl⟩
  · exact (memory_writes_exact ⟨(World.init .lenient).core, 0⟩ (World.init .lenient).periphery
      ⟨0, 0, 0x16FE, 17, List.replicate 16 0xAB, rfl⟩ []).1 (Or.inr (by decide))

end Fakemote
