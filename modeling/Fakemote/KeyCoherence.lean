import Fakemote.Library.LazyCache
import Fakemote.CallEffects
import Fakemote.FreshSession

/-! The encryption key of the extension is a lazy cache over its key registers: it is coherent in
every run, so what the host reads is encrypted under the key of the current registers. -/

namespace Fakemote

open Bytes Program Transition Labelled

def Session.keyData (regs : Registers) : List UInt8 :=
  regs.read encryptionKeyDataBegin (encryptionKeyDataEnd - encryptionKeyDataBegin)

def derivedKey (memory : Nat → UInt8) (regs : Registers) : WiimoteEncryptionKey :=
  wiimoteCryptoGenerateKeyFromExtensionKeyData memory (Session.keyData regs)

def Session.Coherent (memory : Nat → UInt8) (wiimote : Session) : Prop :=
  LazyCache.Coherent (derivedKey memory) wiimote.extensionRegs wiimote.extensionKey
    wiimote.extensionKeyDirty

theorem derivedKey_congr {memory : Nat → UInt8} {regs after : Registers}
    (same : Session.keyData after = Session.keyData regs) :
    derivedKey memory after = derivedKey memory regs := by
  unfold derivedKey
  rw [same]

def encryptByte (key : WiimoteEncryptionKey) (address : Nat) (byte : UInt8) : UInt8 :=
  (byte - key.ft.getD (address % 8) 0) ^^^ key.sb.getD (address % 8) 0

/-- Registers as the host must get them: under the key that belongs to the key registers. -/
def encryptedRegs (memory : Nat → UInt8) (regs : Registers) (address size : Nat) : List UInt8 :=
  (List.range size).map fun offset =>
    encryptByte (derivedKey memory regs) (address + offset) (regs (address + offset))

theorem encrypt_read (key : WiimoteEncryptionKey) (regs : Registers) (address size : Nat) :
    wiimoteCryptoEncrypt key address (regs.read address size) =
      (List.range size).map fun offset =>
        encryptByte key (address + offset) (regs (address + offset)) := by
  apply List.ext_getElem
  · simp [wiimoteCryptoEncrypt]
  · intro offset low high
    simp [wiimoteCryptoEncrypt, Registers.read, encryptByte]

theorem extensionReadData_refresh {memory : Nat → UInt8} {wiimote : Session} {address size : Nat}
    (room : address + size ≤ extensionRegsSize)
    (enabled : wiimote.extensionRegs encryptionOffset = encryptionEnabled) :
    let used := LazyCache.refresh (derivedKey memory) wiimote.extensionRegs wiimote.extensionKey
      wiimote.extensionKeyDirty
    wiimote.extensionReadData memory address size =
      some ({ wiimote with extensionKey := used.1, extensionKeyDirty := used.2 },
        wiimoteCryptoEncrypt used.1 address (wiimote.extensionRegs.read address size)) := by
  unfold Session.extensionReadData LazyCache.refresh
  dsimp only
  rw [if_neg (Nat.not_lt.mpr room), if_pos enabled]
  cases dirty : wiimote.extensionKeyDirty with
  | true => rfl
  | false =>
      have same : { wiimote with extensionKeyDirty := false } = wiimote := by rw [← dirty]
      simp only [Bool.false_eq_true, if_false, same]

theorem extensionReadData_encrypted {memory : Nat → UInt8} {wiimote : Session} {address size : Nat}
    (coherent : wiimote.Coherent memory) (room : address + size ≤ extensionRegsSize)
    (enabled : wiimote.extensionRegs encryptionOffset = encryptionEnabled) :
    ∃ after, wiimote.extensionReadData memory address size =
      some (after, encryptedRegs memory wiimote.extensionRegs address size) := by
  have value := LazyCache.Coherent.refresh_value coherent
  have read := @extensionReadData_refresh memory wiimote address size room enabled
  dsimp only at read
  rw [value, encrypt_read] at read
  exact ⟨_, read⟩

namespace Session.Coherent

variable {memory : Nat → UInt8} {wiimote after : Session}

theorem of_dirty (dirty : wiimote.extensionKeyDirty = true) : wiimote.Coherent memory := by
  unfold Session.Coherent
  rw [dirty]
  exact LazyCache.coherent_dirty _ _

theorem keep (coherent : wiimote.Coherent memory)
    (key : after.extensionKey = wiimote.extensionKey)
    (dirty : after.extensionKeyDirty = wiimote.extensionKeyDirty)
    (data : keyData after.extensionRegs = keyData wiimote.extensionRegs) :
    after.Coherent memory := by
  unfold Session.Coherent
  rw [key, dirty]
  exact LazyCache.Coherent.write coherent (derivedKey_congr data)

theorem extensionReadData {address size : Nat} {data : List UInt8}
    (coherent : wiimote.Coherent memory)
    (read : wiimote.extensionReadData memory address size = some (after, data)) :
    after.Coherent memory := by
  by_cases room : address + size ≤ extensionRegsSize
  · by_cases enabled : wiimote.extensionRegs encryptionOffset = encryptionEnabled
    · rw [extensionReadData_refresh room enabled] at read
      cases read
      exact LazyCache.Coherent.refresh coherent
    · unfold Session.extensionReadData at read
      dsimp only at read
      rw [if_neg (Nat.not_lt.mpr room), if_neg enabled] at read
      cases read
      exact coherent
  · unfold Session.extensionReadData at read
    rw [if_pos (Nat.lt_of_not_le room)] at read
    cases read

theorem extensionReport (coherent : wiimote.Coherent memory) :
    (wiimote.extensionReport memory).1.Coherent memory := by
  unfold Session.extensionReport
  dsimp only
  split
  · exact coherent
  · rcases read : wiimote.extensionReadData memory 0 (inputReportExtSize wiimote.reportingMode) with
      _ | ⟨after, data⟩
    · exact coherent
    · exact coherent.extensionReadData read

theorem readMemory (coherent : wiimote.Coherent memory) (size : Nat) :
    (Device.readMemory memory wiimote size).2.1.Coherent memory := by
  unfold Device.readMemory
  dsimp only
  split
  · split <;> exact coherent
  · split
    · split
      · exact coherent
      · split
        · split
          · rename_i read
            exact coherent.extensionReadData read
          · exact coherent
        · split
          · split <;> exact coherent
          · exact coherent
    · exact coherent

theorem afterChunk (coherent : wiimote.Coherent memory) :
    (wiimote.afterChunk memory).Coherent memory := by
  have read := coherent.readMemory wiimote.readSize
  rcases reading : Device.readMemory memory wiimote wiimote.readSize with ⟨error, after, data⟩
  rw [reading] at read
  rw [Device.afterChunk_of_read reading]
  exact read.keep rfl rfl rfl

/-- A write that overlaps the key marks the cache, any other leaves the key registers alone. -/
theorem extensionWriteData {data : List UInt8} {address : Nat} (coherent : wiimote.Coherent memory)
    (written : wiimote.extensionWriteData data address = some after) : after.Coherent memory := by
  unfold Session.extensionWriteData at written
  dsimp only at written
  split at written
  · cases written
  · cases written
    by_cases overlaps : encryptionKeyDataBegin < address + data.length ∧
      address < encryptionKeyDataEnd
    · apply of_dirty
      exact if_pos overlaps
    · refine coherent.keep ?_ ?_ ?_
      · rfl
      · exact if_neg overlaps
      · apply Registers.read_write_apart
        simp only [encryptionKeyDataBegin, encryptionKeyDataEnd] at overlaps ⊢
        omega

theorem writeMemory (coherent : wiimote.Coherent memory) (write : Device.WriteRequest) :
    (Device.writeMemory wiimote write).2.Coherent memory := by
  unfold Device.writeMemory
  dsimp only
  split
  · split
    · exact coherent
    · exact coherent.keep rfl rfl rfl
  · split
    · split
      · exact coherent
      · split
        · rcases stored : wiimote.extensionWriteData write.data write.address.toNat with _ | after
          · exact coherent
          · exact coherent.extensionWriteData stored
        · split
          · rcases stored : wiimote.irCameraWriteData write.data write.address.toNat with _ | after
            · exact coherent
            · unfold Session.irCameraWriteData at stored
              split at stored
              · cases stored
              · cases stored
                exact coherent.keep rfl rfl rfl
          · exact coherent
    · exact coherent

theorem reportInputExt {egc : Platform} {buttons : UInt16} {extData : List UInt8}
    (coherent : wiimote.Coherent memory) (short : extData.length = 6) :
    (wiimote.fakeWiimoteReportInputExt egc buttons extData).Coherent memory := by
  unfold Session.fakeWiimoteReportInputExt
  dsimp only
  split
  · refine coherent.keep ?_ ?_ ?_
    · rfl
    · rfl
    dsimp only
    split
    · rename_i differs
      apply Registers.read_write_apart
      have length : (wiimote.extensionRegs.read controllerDataOffset extData.length).length =
          extData.length := Registers.read_length _ _ _
      have bound : egc.memmismatch
          (wiimote.extensionRegs.read controllerDataOffset extData.length) extData ≤
            extData.length := by
        rw [egc.memmismatch_first _ _ length]
        exact DiffCopy.firstDifference_le length
      have start : controllerDataOffset = 0 := rfl
      have limit : encryptionKeyDataBegin = 0x40 := rfl
      rw [List.length_drop]
      omega
    · rfl
  · exact coherent

theorem reportInput (coherent : wiimote.Coherent memory) (buttons : UInt16) :
    (wiimote.fakeWiimoteReportInput buttons).Coherent memory := by
  unfold Session.fakeWiimoteReportInput
  split
  · exact coherent.keep rfl rfl rfl
  · exact coherent

theorem reportMapped {egc : Platform} {input : Gamepad} {extension : WiimoteExt}
    (coherent : wiimote.Coherent memory) :
    (Fakemote.reportMapped egc input extension wiimote).Coherent memory := by
  unfold Fakemote.reportMapped
  cases extension with
  | none => exact coherent.reportInput _
  | nunchuk => exact coherent.reportInputExt rfl
  | classic => exact coherent.reportInputExt rfl
  | classicWiiuPro => exact coherent
  | guitar => exact coherent
  | motionPlus => exact coherent

theorem deed {egc : Platform} (coherent : wiimote.Coherent egc.memory) (deed : Deed) :
    (deed.session egc wiimote).Coherent egc.memory := by
  have channel (chn : Channel) (info : L2capChannelInfo) :
      (wiimote.setChannel chn info).Coherent egc.memory := by
    cases chn <;> exact coherent.keep rfl rfl rfl
  cases deed with
  | request chn psm localCid => exact channel _ _
  | configure chn placed =>
      cases placed with
      | true => exact channel _ _
      | false => exact coherent
  | finish => exact coherent.keep rfl rfl rfl
  | recordCid chn remoteCid => exact channel _ _
  | recordMtu chn mtu ident options placed => exact channel _ _
  | complete chn => exact channel _ _
  | close chn ident dcid scid placed => exact channel _ _
  | rumble on => exact coherent.keep rfl rfl rfl
  | leds value => exact coherent.keep rfl rfl rfl
  | mode id continuous => exact coherent.keep rfl rfl rfl
  | ir on => exact coherent.keep rfl rfl rfl
  | startRead started => exact coherent.keep rfl rfl rfl
  | chunk placed => exact coherent.afterChunk
  | write data placed => exact coherent.writeMemory data
  | ack rptId errorCode placed => exact coherent
  | status padding placed => exact coherent
  | change padding placed => exact of_dirty rfl
  | switch d v ext => exact coherent.keep rfl rfl rfl
  | feed d v ext input accelerometer irDots =>
      apply reportMapped
      split
      · exact coherent.keep rfl rfl rfl
      · exact coherent.keep rfl rfl rfl
  | report placed => exact coherent.extensionReport.keep rfl rfl rfl

end Session.Coherent

theorem Session.Coherent.act {egc : Platform} {a : Air} {w : WiimoteId}
    (coherent : (a.sessions w).Coherent egc.memory) (dev : Device) (deed : Deed) :
    ((a.act egc dev deed).sessions w).Coherent egc.memory := by
  dsimp only [Air.act]
  by_cases target : w = deed.target dev.self
  · subst target
    rw [Function.update_self]
    exact coherent.deed deed
  · rw [Function.update_of_ne target]
    exact coherent

theorem Device.Performs.coherent {dev : Device} {p q : Periphery} {deeds : List Deed}
    {w : WiimoteId} (performed : dev.Performs p deeds q)
    (coherent : (p.sessions w).Coherent p.platform.memory) :
    (q.sessions w).Coherent q.platform.memory := by
  rw [performed.platform]
  apply performed.path.invariant (fun a => (a.sessions w).Coherent p.platform.memory) coherent
  intro a deed holds _
  exact holds.act dev deed

def KeysCoherent (s : World) : Prop :=
  ∀ w, (s.core.links w).active = true →
    (s.periphery.sessions w).Coherent s.periphery.platform.memory

theorem Aloof.coherent {s t : World} (aloof : Aloof s t) (coherent : KeysCoherent s) :
    KeysCoherent t := by
  intro w active
  rw [aloof.sessions, aloof.platform]
  exact coherent w (aloof.active w active)

theorem Effect.coherent {s t : World} {c : Call} (effect : Effect s c t)
    (coherent : KeysCoherent s) : KeysCoherent t := by
  cases effect with
  | aloof aloof => exact aloof.coherent coherent
  | plug free => exact coherent
  | @assign w d inactive found =>
      intro v active
      by_cases same : v = w
      · subst same
        rw [s.assigned_session_same]
        exact Session.Coherent.of_dirty rfl
      · rw [s.assigned_link_other d same] at active
        rw [s.assigned_session_other d same]
        exact coherent v active
  | @accept data w s1 t before after =>
      apply after.coherent
      have first := before.coherent coherent
      intro v active
      rw [s1.accepted_active] at active
      by_cases same : v = w
      · subst same
        rw [s1.accepted_session_same]
        exact (first v active).keep rfl rfl rfl
      · rw [s1.accepted_session_other same]
        exact first v active
  | tick _ _ performed _ => exact fun w active => performed.coherent (coherent w active)
  | command _ _ performed => exact fun w active => performed.coherent (coherent w active)
  | output _ performed => exact fun w active => performed.coherent (coherent w active)

theorem CallRun.coherent {env : Environment} {condition : World → Call → Prop} {s : World}
    (reached : CallRun env condition s) : KeysCoherent s := by
  apply reached.invariant KeysCoherent
  · intro w active
    cases active
  · intro s t c coherent _ run
    exact (callStep_effect run).coherent coherent

def Session.ReadsExtension (wiimote : Session) : Prop :=
  (wiimote.readRequest.space = addressSpaceI2cBus ∨
      wiimote.readRequest.space = addressSpaceI2cBusAlt) ∧
    wiimote.readRequest.slaveAddress = extensionI2cAddr

def Session.inputBody (wiimote : Session) : List UInt8 :=
  let acc := inputReportAccSize wiimote.reportingMode ≠ 0
  (if inputReportHasBtn wiimote.reportingMode then
      bytes16 (wiimote.buttons ||| (if acc then Device.accelerometerBits wiimote else 0))
    else []) ++
    (if acc then Device.accelerometerBytes wiimote else []) ++
    wiimote.irRegs.read irRegsCameraData (inputReportIrSize wiimote.reportingMode)

/-- Read replies and data reports carry the extension registers as the host must get them. -/
def Encrypts (memory : Nat → UInt8) (wiimote : Session) : Deed → Prop
  | .chunk _ =>
      wiimote.ReadsExtension →
      wiimote.readRequest.address.toNat + wiimote.readSize ≤ extensionRegsSize →
      wiimote.chunkBody memory =
        bytes16 wiimote.buttons ++ [UInt8.ofNat (wiimote.readSize - 1) <<< (4 : UInt8)] ++
          bytes16 wiimote.readRequest.address ++
          encryptedRegs memory wiimote.extensionRegs wiimote.readRequest.address.toNat
            wiimote.readSize ++
          List.replicate (16 - wiimote.readSize) 0
  | .report _ =>
      wiimote.reportBody memory = wiimote.inputBody ++
        encryptedRegs memory wiimote.extensionRegs 0 (inputReportExtSize wiimote.reportingMode)
  | _ => True

@[simp] theorem encryptedRegs_length (memory : Nat → UInt8) (regs : Registers)
    (address size : Nat) : (encryptedRegs memory regs address size).length = size := by
  simp [encryptedRegs]

theorem chunkBody_encrypted {memory : Nat → UInt8} {wiimote : Session}
    (coherent : wiimote.Coherent memory)
    (enabled : wiimote.extensionRegs encryptionOffset = encryptionEnabled)
    (reads : wiimote.ReadsExtension)
    (room : wiimote.readRequest.address.toNat + wiimote.readSize ≤ extensionRegsSize) :
    wiimote.chunkBody memory =
      bytes16 wiimote.buttons ++ [UInt8.ofNat (wiimote.readSize - 1) <<< (4 : UInt8)] ++
        bytes16 wiimote.readRequest.address ++
        encryptedRegs memory wiimote.extensionRegs wiimote.readRequest.address.toNat
          wiimote.readSize ++
        List.replicate (16 - wiimote.readSize) 0 := by
  obtain ⟨after, read⟩ := extensionReadData_encrypted coherent room enabled
  have reading : Device.readMemory memory wiimote wiimote.readSize =
      (errorCodeSuccess, after, encryptedRegs memory wiimote.extensionRegs
        wiimote.readRequest.address.toNat wiimote.readSize) := by
    obtain ⟨space, slave⟩ := reads
    have other : wiimote.readRequest.space ≠ addressSpaceEeprom := by
      rcases space with h | h <;> rw [h] <;> decide
    unfold Device.readMemory
    dsimp only
    rw [if_neg other, if_pos space, slave, if_neg (by decide), if_pos rfl, read]
  rw [Device.chunkBody_of_read reading, if_neg (by simp), encryptedRegs_length]
  simp [errorCodeSuccess]

theorem reportBody_encrypted {memory : Nat → UInt8} {wiimote : Session}
    (coherent : wiimote.Coherent memory)
    (enabled : wiimote.extensionRegs encryptionOffset = encryptionEnabled) :
    wiimote.reportBody memory = wiimote.inputBody ++
      encryptedRegs memory wiimote.extensionRegs 0 (inputReportExtSize wiimote.reportingMode) := by
  change wiimote.inputBody ++ (wiimote.extensionReport memory).2 = _
  have small := (Device.inputReport_layout wiimote.reportingMode).2.2.2
  have room : 0 + inputReportExtSize wiimote.reportingMode ≤ extensionRegsSize := by
    rw [extensionRegsSize]
    omega
  unfold Session.extensionReport
  dsimp only
  split
  · rename_i empty
    rw [empty]
    rfl
  · obtain ⟨after, read⟩ := extensionReadData_encrypted coherent room enabled
    rw [read]
    rfl

/-- The key in use belongs to the key registers, and what goes out under encryption is encrypted
under it, byte by byte. -/
theorem extension_key_coherent {env : Environment} {s : World} (reached : CallRun env anyCall s)
    {w : WiimoteId} (active : (s.core.links w).active = true) :
    (s.periphery.sessions w).Coherent s.periphery.platform.memory ∧
      ∀ c t, (c = .tick w ∨ ∃ dcid payload length, c = .channelData w dcid payload length) →
        (s.core.links w).basebandState = .complete → callStep s c = .ok t →
        ∃ deeds, Device.Performs ⟨s.core, w⟩ s.periphery deeds t.periphery ∧
          t.periphery.bulkIn.produced = s.periphery.bulkIn.produced ++
            emitted (Air.act s.periphery.platform ⟨s.core, w⟩)
              (Air.emits s.periphery.platform ⟨s.core, w⟩) s.periphery.air deeds ∧
          Along (Air.act s.periphery.platform ⟨s.core, w⟩)
            (fun a deed => (a.sessions w).extensionRegs encryptionOffset = encryptionEnabled →
              Encrypts s.periphery.platform.memory (a.sessions w) deed)
            s.periphery.air deeds := by
  have coherent := reached.coherent w active
  refine ⟨coherent, ?_⟩
  intro c t reports complete run
  have performed : ∃ deeds, Device.Performs ⟨s.core, w⟩ s.periphery deeds t.periphery := by
    rcases reports with rfl | ⟨dcid, payload, length, rfl⟩
    · obtain ⟨deeds, q, rfl, performed, -⟩ :=
        tickActive_performs active complete (callStep_ok.mp run)
      exact ⟨deeds, performed⟩
    · obtain ⟨deeds, q, rfl, performed, -⟩ := channelData_performs (callStep_ok.mp run)
      exact ⟨deeds, performed⟩
  obtain ⟨deeds, performed⟩ := performed
  refine ⟨deeds, performed, performed.produced, ?_⟩
  apply performed.path.along (fun a => (a.sessions w).Coherent s.periphery.platform.memory) coherent
  · intro a deed holds _
    exact holds.act _ deed
  · intro a deed holds _ enabled
    cases deed with
    | chunk placed => exact chunkBody_encrypted holds enabled
    | report placed => exact reportBody_encrypted holds enabled
    | _ => trivial

def outputReport (report : List UInt8) : Input :=
  .aclOut (aclPacket 0 (l2capFrame 0x41
    (((hidTypeData <<< (4 : UInt8)) ||| hidParamOutput) :: report)))

/-- The host turns encryption on and reads six bytes of the extension. -/
def readsEncrypted : List Input :=
  [outputReport [outputReportIdWriteData, 0x04, 0xA4, 0x00, 0xF0, 1, encryptionEnabled],
    outputReport [outputReportIdReadData, 0x04, 0xA4, 0x00, 0x00, 0x00, 6]]

/-- After an encrypted read the key is the cached one. -/
theorem extension_key_coherent_cached :
    ∃ s : World, CallRun .gamepad anyCall s ∧ (s.core.links 0).active = true ∧
      (s.periphery.sessions 0).extensionKeyDirty = false ∧
      (s.periphery.sessions 0).extensionKey =
        derivedKey s.periphery.platform.memory (s.periphery.sessions 0).extensionRegs := by
  obtain ⟨s, reached, check⟩ : ∃ s, Run .gamepad anyInput s ∧
      decide ((s.core.links 0).active = true ∧
        (s.periphery.sessions 0).extensionKeyDirty = false) = true :=
    exists_of_execute (hostOpens ++ readsEncrypted) (by decide +kernel)
  obtain ⟨active, clean⟩ := of_decide_eq_true check
  have coherent := (extension_key_coherent reached.calls active).1
  exact ⟨s, reached.calls, active, clean, coherent clean⟩

end Fakemote
