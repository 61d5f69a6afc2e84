import Fakemote.Library.BitFields
import Fakemote.HidReports
import Fakemote.KeyCoherence

/-! Data reports as the host decodes them: what it gets back of the buttons, the accelerometer, the
IR camera and the extension. -/

namespace Fakemote

open Bytes BitFields Program Transition Labelled

def wiimoteButtonAll : UInt16 := 0x1F9F

/-- Where `fake_wiimote_send_data_report` writes: the offset and the size of each field. -/
def reportFields (mode : UInt8) : List (Nat × Nat) :=
  [(0, if inputReportHasBtn mode then 2 else 0),
    (inputReportAccOffset mode, inputReportAccSize mode),
    (inputReportIrOffset mode, inputReportIrSize mode),
    (inputReportExtOffset mode, inputReportExtSize mode)]

/-- Every byte of a report belongs to one field. -/
def FieldsTile (mode : UInt8) (length : Nat) : Prop :=
  (∀ field ∈ reportFields mode, field.2 ≠ 0 → field.1 + field.2 ≤ length) ∧
    ∀ i < length, ((reportFields mode).countP fun field =>
      field.1 ≤ i ∧ i < field.1 + field.2) = 1

structure ReportLayout where
  buttons : Bool
  accelerometer : Bool
  ir : Nat
  extension : Nat
  deriving DecidableEq, Repr

/-- The layouts that the host knows; a report with another id has the buttons only. -/
def hostLayout (id : UInt8) : ReportLayout :=
  ([(inputReportIdBtn, ⟨true, false, 0, 0⟩),
    (inputReportIdBtnAcc, ⟨true, true, 0, 0⟩),
    (inputReportIdBtnExp8, ⟨true, false, 0, 8⟩),
    (inputReportIdBtnAccIr, ⟨true, true, 12, 0⟩),
    (inputReportIdBtnExp19, ⟨true, false, 0, 19⟩),
    (inputReportIdBtnAccExp, ⟨true, true, 0, 16⟩),
    (inputReportIdBtnIrExp, ⟨true, false, 10, 9⟩),
    (inputReportIdBtnAccIrExp, ⟨true, true, 10, 6⟩),
    (inputReportIdExp21, ⟨false, false, 0, 21⟩)].lookup id).getD ⟨true, false, 0, 0⟩

namespace ReportLayout

def buttonsSize (layout : ReportLayout) : Nat := if layout.buttons then 2 else 0

def accelerometerSize (layout : ReportLayout) : Nat := if layout.accelerometer then 3 else 0

def size (layout : ReportLayout) : Nat :=
  layout.buttonsSize + layout.accelerometerSize + layout.ir + layout.extension

end ReportLayout

structure HostReport where
  buttons : List UInt8
  accelerometer : List UInt8
  ir : List UInt8
  extension : List UInt8
  deriving DecidableEq, Repr

def decodeReport (layout : ReportLayout) (body : List UInt8) : Option HostReport :=
  if body.length = layout.size then
    let rest := body.drop layout.buttonsSize
    let camera := rest.drop layout.accelerometerSize
    some ⟨body.take layout.buttonsSize, rest.take layout.accelerometerSize,
      camera.take layout.ir, camera.drop layout.ir⟩
  else none

namespace HostReport

def word (report : HostReport) : UInt16 :=
  word16 (report.buttons.getD 0 0) (report.buttons.getD 1 0)

def coreButtons (report : HostReport) : UInt16 := report.word &&& wiimoteButtonAll

def spareBits (report : HostReport) : UInt16 := report.word &&& ~~~wiimoteButtonAll

def accByte (report : HostReport) (axis : Nat) : UInt16 :=
  (report.accelerometer.getD axis 0).toUInt16

def accX (report : HostReport) : UInt16 :=
  (report.accByte 0 <<< (2 : UInt16)) ||| ((report.word >>> (13 : UInt16)) &&& (3 : UInt16))

/-- The other two axes lose the lowest bit. -/
def accYHigh (report : HostReport) : UInt16 :=
  (report.accByte 1 <<< (1 : UInt16)) ||| ((report.word >>> (5 : UInt16)) &&& (1 : UInt16))

def accZHigh (report : HostReport) : UInt16 :=
  (report.accByte 2 <<< (1 : UInt16)) ||| ((report.word >>> (6 : UInt16)) &&& (1 : UInt16))

end HostReport

/-- What a report of this layout carries of a session. -/
structure CarriesState (memory : Nat → UInt8) (wiimote : Session) (layout : ReportLayout)
    (report : HostReport) : Prop where
  buttons : layout.buttons = true → report.coreButtons = wiimote.buttons
  spare : layout.accelerometer = false → report.spareBits = 0
  accX : layout.accelerometer = true → report.accX = wiimote.accX
  accY : layout.accelerometer = true → report.accYHigh = wiimote.accY >>> (1 : UInt16)
  accZ : layout.accelerometer = true → report.accZHigh = wiimote.accZ >>> (1 : UInt16)
  ir : report.ir = wiimote.irRegs.read irRegsCameraData layout.ir
  extension : report.extension =
    if wiimote.extensionRegs encryptionOffset = encryptionEnabled then
      encryptedRegs memory wiimote.extensionRegs 0 layout.extension
    else wiimote.extensionRegs.read controllerDataOffset layout.extension

theorem hostLayout_sizes (mode : UInt8) :
    (hostLayout mode).buttons = inputReportHasBtn mode ∧
    (hostLayout mode).accelerometerSize = inputReportAccSize mode ∧
    (hostLayout mode).ir = inputReportIrSize mode ∧
    (hostLayout mode).extension = inputReportExtSize mode ∧
    (hostLayout mode).size ≤ 21 ∧ FieldsTile mode (hostLayout mode).size := by
  by_cases listed : mode ∈ [inputReportIdBtn, inputReportIdBtnAcc, inputReportIdBtnExp8,
    inputReportIdBtnAccIr, inputReportIdBtnExp19, inputReportIdBtnAccExp, inputReportIdBtnIrExp,
    inputReportIdBtnAccIrExp, inputReportIdExp21]
  · simp only [List.mem_cons, List.not_mem_nil, or_false] at listed
    unfold FieldsTile
    rcases listed with rfl | rfl | rfl | rfl | rfl | rfl | rfl | rfl | rfl <;> decide
  · simp only [List.mem_cons, List.not_mem_nil, or_false, not_or] at listed
    obtain ⟨h0, h1, h2, h3, h4, h5, h6, h7, h8⟩ := listed
    have layout : hostLayout mode = ⟨true, false, 0, 0⟩ := by
      unfold hostLayout
      rw [List.lookup_eq_none_iff.mpr (by simp [h0, h1, h2, h3, h4, h5, h6, h7, h8])]
      rfl
    have fields : reportFields mode = [(0, 2), (0, 0), (0, 0), (0, 0)] := by
      simp [reportFields, inputReportHasBtn, inputReportAccOffset, inputReportAccSize,
        inputReportIrOffset, inputReportIrSize, inputReportExtOffset, inputReportExtSize, h1, h2,
        h3, h4, h5, h6, h7, h8]
    rw [layout]
    refine ⟨?_, ?_, ?_, ?_, by decide, ?_⟩
    · simp [inputReportHasBtn, h8]
    · simp [ReportLayout.accelerometerSize, inputReportAccSize, h1, h3, h5, h7]
    · simp [inputReportIrSize, h3, h6, h7]
    · simp [inputReportExtSize, h2, h4, h5, h6, h7, h8]
    · unfold FieldsTile
      rw [fields]
      decide

theorem hostLayout_accelerometer {mode : UInt8}
    (axes : (hostLayout mode).accelerometer = true) :
    (hostLayout mode).buttons = true ∧ inputReportAccSize mode ≠ 0 := by
  obtain ⟨buttons, size, -⟩ := hostLayout_sizes mode
  rw [ReportLayout.accelerometerSize, if_pos axes] at size
  refine ⟨?_, by omega⟩
  rw [buttons]
  by_contra lacks
  have extension : mode = inputReportIdExp21 := by simpa [inputReportHasBtn] using lacks
  rw [extension] at axes
  cases axes

theorem decodeReport_fields {layout : ReportLayout}
    {buttons accelerometer ir extension : List UInt8}
    (buttonsLength : buttons.length = layout.buttonsSize)
    (accelerometerLength : accelerometer.length = layout.accelerometerSize)
    (irLength : ir.length = layout.ir) (extensionLength : extension.length = layout.extension) :
    decodeReport layout (buttons ++ accelerometer ++ ir ++ extension) =
      some ⟨buttons, accelerometer, ir, extension⟩ := by
  unfold decodeReport
  rw [if_pos (by simp [ReportLayout.size, Nat.add_assoc, buttonsLength,
    accelerometerLength, irLength, extensionLength]), ← buttonsLength, ← accelerometerLength,
    ← irLength]
  simp only [List.append_assoc, List.take_left, List.drop_left]

/-- The buttons and the accelerometer values fit in their fields. -/
structure Session.Masked (wiimote : Session) : Prop where
  buttons : Within wiimoteButtonAll wiimote.buttons
  accX : wiimote.accX.toNat < 1024
  accY : wiimote.accY.toNat < 1024
  accZ : wiimote.accZ.toNat < 1024

theorem tableEntry_all {α : Type} {zero : α} {table : List (Nat × α)} (good : α → Prop)
    (default : good zero) (listed : ∀ entry ∈ table, good entry.2) (index : Nat) :
    good (tableEntry zero table index) := by
  unfold tableEntry
  induction table with
  | nil => exact default
  | cons head table ih =>
      rw [List.lookup_cons]
      split
      · exact listed head List.mem_cons_self
      · exact ih fun entry member => listed entry (List.mem_cons_of_mem _ member)

theorem mapButtons_within {map : Nat → UInt16} {mask : UInt16}
    (table : ∀ index, Within mask (map index)) (count : Nat) :
    ∀ (index : Nat) (buttons : UInt32) (mapped : UInt16), Within mask mapped →
      Within mask (mapButtons map count index buttons mapped) := by
  induction count with
  | zero =>
      intro index buttons mapped start
      exact start
  | succ count ih =>
      intro index buttons mapped start
      rw [mapButtons]
      apply ih
      split
      · exact start.or (table index)
      · exact start

theorem wiimoteButtonMap_within (egc : Platform) (index : Nat) :
    Within wiimoteButtonAll (egc.wiimoteButtonMap index) := by
  unfold Platform.wiimoteButtonMap
  apply tableEntry_all (Within wiimoteButtonAll)
  · exact Within.zero _
  · simp only [List.mem_cons, List.not_mem_nil, or_false, forall_eq_or_imp, forall_eq, Within]
    decide

def Session.inputs (wiimote : Session) : UInt16 × UInt16 × UInt16 × UInt16 :=
  (wiimote.buttons, wiimote.accX, wiimote.accY, wiimote.accZ)

theorem Deed.session_inputs {egc : Platform} {deed : Deed}
    (other : ∀ d v ext input accelerometer irDots,
      deed ≠ .feed d v ext input accelerometer irDots)
    (wiimote : Session) : (deed.session egc wiimote).inputs = wiimote.inputs := by
  have channel (chn : Channel) (info : L2capChannelInfo) :
      (wiimote.setChannel chn info).inputs = wiimote.inputs := by
    cases chn <;> rfl
  cases deed with
  | request chn psm localCid => exact channel _ _
  | configure chn placed =>
      cases placed with
      | true => exact channel _ _
      | false => rfl
  | recordCid chn remoteCid => exact channel _ _
  | recordMtu chn mtu ident options placed => exact channel _ _
  | complete chn => exact channel _ _
  | close chn ident dcid scid placed => exact channel _ _
  | chunk placed =>
      obtain ⟨key, dirty, request, same⟩ := afterChunk_session egc.memory wiimote
      have after := congrArg Session.inputs same
      exact after
  | write data placed =>
      obtain ⟨irRegs, extensionRegs, dirty, eeprom, same⟩ :=
        Device.writeMemory_session wiimote data
      have after := congrArg Session.inputs same
      exact after
  | feed d v ext input accelerometer irDots => exact absurd rfl (other _ _ _ _ _ _)
  | report placed =>
      obtain ⟨key, dirty, same⟩ := report_session egc wiimote placed
      have after := congrArg Session.inputs same
      exact after
  | _ => rfl

namespace Session.Masked

variable {wiimote after : Session}

theorem keep (masked : wiimote.Masked) (inputs : after.inputs = wiimote.inputs) : after.Masked := by
  simp only [Session.inputs, Prod.mk.injEq] at inputs
  obtain ⟨buttons, accX, accY, accZ⟩ := inputs
  exact ⟨buttons ▸ masked.buttons, accX ▸ masked.accX, accY ▸ masked.accY, accZ ▸ masked.accZ⟩

theorem press (masked : wiimote.Masked) (buttons : Within wiimoteButtonAll after.buttons)
    (accX : after.accX = wiimote.accX) (accY : after.accY = wiimote.accY)
    (accZ : after.accZ = wiimote.accZ) : after.Masked :=
  ⟨buttons, accX ▸ masked.accX, accY ▸ masked.accY, accZ ▸ masked.accZ⟩

theorem accelerometer (masked : wiimote.Masked) (accX accY accZ : UInt16) :
    (wiimote.fakeWiimoteReportAccelerometer accX accY accZ).Masked where
  buttons := masked.buttons
  accX := Nat.lt_succ_of_le (and_toNat_le accX 0x3FF)
  accY := Nat.lt_succ_of_le (and_toNat_le accY 0x3FF)
  accZ := Nat.lt_succ_of_le (and_toNat_le accZ 0x3FF)

theorem reportInput (masked : wiimote.Masked) {buttons : UInt16}
    (within : Within wiimoteButtonAll buttons) :
    (wiimote.fakeWiimoteReportInput buttons).Masked := by
  unfold Session.fakeWiimoteReportInput
  split
  · exact masked.press within rfl rfl rfl
  · exact masked

theorem reportInputExt (masked : wiimote.Masked) {buttons : UInt16}
    (within : Within wiimoteButtonAll buttons) (egc : Platform) (extData : List UInt8) :
    (wiimote.fakeWiimoteReportInputExt egc buttons extData).Masked := by
  unfold Session.fakeWiimoteReportInputExt
  dsimp only
  split
  · exact masked.press within rfl rfl rfl
  · exact masked

theorem reportMapped (masked : wiimote.Masked) (egc : Platform) (input : Gamepad)
    (extension : WiimoteExt) : (Fakemote.reportMapped egc input extension wiimote).Masked := by
  have mapped : Within wiimoteButtonAll
      (bmMapWiimote egc.buttonCount input.buttons egc.wiimoteButtonMap 0) :=
    mapButtons_within (wiimoteButtonMap_within egc) _ _ _ _ (Within.zero _)
  cases extension with
  | none => exact masked.reportInput (Within.zero _)
  | nunchuk => exact masked.reportInputExt mapped _ _
  | classic => exact masked.reportInputExt (Within.zero _) _ _
  | classicWiiuPro => exact masked
  | guitar => exact masked
  | motionPlus => exact masked

theorem deed (masked : wiimote.Masked) (egc : Platform) (deed : Deed) :
    (deed.session egc wiimote).Masked := by
  cases deed with
  | feed d v ext input accelerometer irDots =>
      apply reportMapped
      split
      · exact (masked.accelerometer _ _ _).keep rfl
      · exact masked.keep rfl
  | _ =>
      apply masked.keep
      apply Deed.session_inputs
      intro d v ext input accelerometer irDots same
      cases same

theorem invariant (egc : Platform) : SessionInvariant egc Masked where
  zero := ⟨Within.zero _, by decide, by decide, by decide⟩
  initState _ _ := {
    buttons := Within.zero _
    accX := show accelZeroG.toNat < 1024 by decide
    accY := show accelZeroG.toNat < 1024 by decide
    accZ := show accelOneG.toNat < 1024 by decide }
  linking _ masked := masked.keep rfl
  deed _ masked deed := masked.deed egc deed

end Session.Masked

/-- The bits of the accelerometer are spare bits of the buttons, each value in its own place. -/
theorem accelerometerBits_fields (wiimote : Session) :
    Device.accelerometerBits wiimote &&& wiimoteButtonAll = 0 ∧
      field 13 3 (Device.accelerometerBits wiimote) = wiimote.accX &&& (3 : UInt16) ∧
      field 5 1 (Device.accelerometerBits wiimote) =
        (wiimote.accY >>> (1 : UInt16)) &&& (1 : UInt16) ∧
      field 6 1 (Device.accelerometerBits wiimote) =
        (wiimote.accZ >>> (1 : UInt16)) &&& (1 : UInt16) := by
  have second (axis : UInt16) :
      (axis >>> (1 : UInt16)) &&& (1 : UInt16) = (axis &&& (2 : UInt16)) >>> (1 : UInt16) := by
    rw [UInt16.shiftRight_and]
    rfl
  have low (axis : UInt16) : axis &&& (3 : UInt16) = 0 ∨ axis &&& (3 : UInt16) = 1 ∨
      axis &&& (3 : UInt16) = 2 ∨ axis &&& (3 : UInt16) = 3 := by
    have bound : (axis &&& (3 : UInt16)).toNat ≤ 3 := and_toNat_le axis 3
    simp only [← UInt16.toNat_inj, UInt16.reduceToNat, UInt16.toNat_zero]
    omega
  have middle (axis : UInt16) : axis &&& (2 : UInt16) = 0 ∨ axis &&& (2 : UInt16) = 2 := by
    have inner : axis &&& (2 : UInt16) = (axis &&& (3 : UInt16)) &&& (2 : UInt16) := by
      rw [UInt16.and_assoc]
      rfl
    rw [inner]
    rcases low axis with h | h | h | h
    · exact Or.inl (by rw [h]; rfl)
    · exact Or.inl (by rw [h]; rfl)
    · exact Or.inr (by rw [h]; rfl)
    · exact Or.inr (by rw [h]; rfl)
  rw [second, second]
  unfold Device.accelerometerBits
  rcases low wiimote.accX with x | x | x | x <;> rcases middle wiimote.accY with y | y <;>
    rcases middle wiimote.accZ with z | z <;> rw [x, y, z] <;> decide

theorem accelerometer_byte {axis : UInt16} (fits : axis.toNat < 1024) :
    (axis >>> (2 : UInt16)).toUInt8.toUInt16 = axis >>> (2 : UInt16) := by
  apply toUInt8_toUInt16
  have shift : (axis >>> (2 : UInt16)).toNat = axis.toNat / 4 := by
    rw [UInt16.toNat_shiftRight]
    exact Nat.shiftRight_eq_div_pow axis.toNat 2
  omega

theorem accelerometer_join {axis : UInt16} (fits : axis.toNat < 1024) :
    ((axis >>> (2 : UInt16)).toUInt8.toUInt16 <<< (2 : UInt16)) ||| (axis &&& (3 : UInt16)) =
      axis := by
  rw [accelerometer_byte fits]
  exact join (by decide) rfl axis

theorem accelerometer_joinHigh {axis : UInt16} (fits : axis.toNat < 1024) :
    ((axis >>> (2 : UInt16)).toUInt8.toUInt16 <<< (1 : UInt16)) |||
        ((axis >>> (1 : UInt16)) &&& (1 : UInt16)) = axis >>> (1 : UInt16) := by
  have twice : axis >>> (2 : UInt16) = (axis >>> (1 : UInt16)) >>> (1 : UInt16) := by
    apply UInt16.toNat_inj.mp
    simp only [UInt16.toNat_shiftRight]
    exact Nat.shiftRight_add axis.toNat 1 1
  rw [accelerometer_byte fits, twice]
  exact join (by decide) rfl (axis >>> (1 : UInt16))

theorem extensionReport_data {memory : Nat → UInt8} {wiimote : Session}
    (coherent : wiimote.Coherent memory) :
    (wiimote.extensionReport memory).2 =
      if wiimote.extensionRegs encryptionOffset = encryptionEnabled then
        encryptedRegs memory wiimote.extensionRegs 0 (inputReportExtSize wiimote.reportingMode)
      else wiimote.extensionRegs.read controllerDataOffset
        (inputReportExtSize wiimote.reportingMode) := by
  split
  · rename_i encrypts
    exact List.append_cancel_left (reportBody_encrypted coherent encrypts)
  · rename_i plain
    have small := (Device.inputReport_layout wiimote.reportingMode).2.2.2
    have room : ¬ extensionRegsSize < 0 + inputReportExtSize wiimote.reportingMode := by
      rw [extensionRegsSize]
      omega
    unfold Session.extensionReport Session.extensionReadData
    simp only [room, plain, if_false]
    split
    · rename_i empty
      rw [empty]
      rfl
    · rfl

def Session.buttonWord (wiimote : Session) : UInt16 :=
  wiimote.buttons |||
    (if inputReportAccSize wiimote.reportingMode ≠ 0 then Device.accelerometerBits wiimote else 0)

theorem buttonWord_core {wiimote : Session} (masked : wiimote.Masked) :
    wiimote.buttonWord &&& wiimoteButtonAll = wiimote.buttons := by
  unfold Session.buttonWord
  rw [and_or_distrib, masked.buttons]
  split
  · rw [(accelerometerBits_fields wiimote).1, UInt16.or_zero]
  · rw [UInt16.zero_and, UInt16.or_zero]

theorem buttonWord_field {wiimote : Session} (masked : wiimote.Masked)
    (axes : inputReportAccSize wiimote.reportingMode ≠ 0) {shift mask : UInt16}
    (spare : field shift mask wiimoteButtonAll = 0) :
    field shift mask wiimote.buttonWord = field shift mask (Device.accelerometerBits wiimote) := by
  unfold Session.buttonWord
  rw [if_pos axes, field_or, masked.buttons.field_of_apart spare, UInt16.zero_or]

def Session.hostReport (memory : Nat → UInt8) (wiimote : Session) : HostReport where
  buttons := if inputReportHasBtn wiimote.reportingMode then bytes16 wiimote.buttonWord else []
  accelerometer := if inputReportAccSize wiimote.reportingMode ≠ 0 then
    Device.accelerometerBytes wiimote else []
  ir := wiimote.irRegs.read irRegsCameraData (inputReportIrSize wiimote.reportingMode)
  extension := (wiimote.extensionReport memory).2

theorem decodeReport_hostReport (memory : Nat → UInt8) (wiimote : Session) :
    decodeReport (hostLayout wiimote.reportingMode) (wiimote.reportBody memory) =
      some (wiimote.hostReport memory) := by
  obtain ⟨hasBtn, accSize, irSize, extSize, -⟩ := hostLayout_sizes wiimote.reportingMode
  apply decodeReport_fields
  · rw [ReportLayout.buttonsSize, hasBtn]
    split <;> rfl
  · rw [accSize]
    unfold inputReportAccSize
    split <;> rfl
  · rw [irSize]
    exact Registers.read_length _ _ _
  · rw [extSize]
    exact Device.extensionReport_length memory wiimote

theorem hostReport_word {memory : Nat → UInt8} {wiimote : Session}
    (buttons : inputReportHasBtn wiimote.reportingMode = true) :
    (wiimote.hostReport memory).word = wiimote.buttonWord := by
  dsimp only [HostReport.word, Session.hostReport]
  rw [if_pos buttons]
  exact word16_bytes wiimote.buttonWord

theorem hostReport_carries {memory : Nat → UInt8} {wiimote : Session} (masked : wiimote.Masked)
    (coherent : wiimote.Coherent memory) :
    CarriesState memory wiimote (hostLayout wiimote.reportingMode) (wiimote.hostReport memory) := by
  obtain ⟨hasBtn, accSize, irSize, extSize, -⟩ := hostLayout_sizes wiimote.reportingMode
  obtain ⟨-, first, second, third⟩ := accelerometerBits_fields wiimote
  have extension := extensionReport_data coherent
  rw [← extSize] at extension
  have axes (present : (hostLayout wiimote.reportingMode).accelerometer = true) :=
    hostLayout_accelerometer present
  have absent (none : (hostLayout wiimote.reportingMode).accelerometer = false) :
      inputReportAccSize wiimote.reportingMode = 0 := by
    rw [← accSize, ReportLayout.accelerometerSize, none]
    rfl
  have word (buttons : (hostLayout wiimote.reportingMode).buttons = true) :
      (wiimote.hostReport memory).word = wiimote.buttonWord :=
    hostReport_word (hasBtn.symm.trans buttons)
  have bytes (present : (hostLayout wiimote.reportingMode).accelerometer = true) :
      (wiimote.hostReport memory).accelerometer = Device.accelerometerBytes wiimote :=
    if_pos (axes present).2
  constructor
  · intro buttons
    rw [HostReport.coreButtons, word buttons]
    exact buttonWord_core masked
  · intro none
    rw [HostReport.spareBits]
    by_cases buttons : (hostLayout wiimote.reportingMode).buttons = true
    · have plain : wiimote.buttonWord = wiimote.buttons := by
        rw [Session.buttonWord, if_neg (not_not.mpr (absent none)), UInt16.or_zero]
      rw [word buttons, plain]
      exact masked.buttons.and_of_apart (by decide)
    · have empty : (wiimote.hostReport memory).buttons = [] := by
        rw [hasBtn] at buttons
        exact if_neg buttons
      rw [HostReport.word, empty]
      rfl
  · intro present
    have low : field 13 3 (wiimote.hostReport memory).word = wiimote.accX &&& (3 : UInt16) := by
      rw [word (axes present).1, buttonWord_field masked (axes present).2 (by decide), first]
    change ((wiimote.hostReport memory).accByte 0 <<< (2 : UInt16)) |||
      field 13 3 (wiimote.hostReport memory).word = _
    rw [low, HostReport.accByte, bytes present]
    exact accelerometer_join masked.accX
  · intro present
    have low : field 5 1 (wiimote.hostReport memory).word =
        (wiimote.accY >>> (1 : UInt16)) &&& (1 : UInt16) := by
      rw [word (axes present).1, buttonWord_field masked (axes present).2 (by decide), second]
    change ((wiimote.hostReport memory).accByte 1 <<< (1 : UInt16)) |||
      field 5 1 (wiimote.hostReport memory).word = _
    rw [low, HostReport.accByte, bytes present]
    exact accelerometer_joinHigh masked.accY
  · intro present
    have low : field 6 1 (wiimote.hostReport memory).word =
        (wiimote.accZ >>> (1 : UInt16)) &&& (1 : UInt16) := by
      rw [word (axes present).1, buttonWord_field masked (axes present).2 (by decide), third]
    change ((wiimote.hostReport memory).accByte 2 <<< (1 : UInt16)) |||
      field 6 1 (wiimote.hostReport memory).word = _
    rw [low, HostReport.accByte, bytes present]
    exact accelerometer_joinHigh masked.accZ
  · rw [irSize]
    rfl
  · exact extension

end Fakemote
