import Fakemote.Turns

/-! The HID reports that the host reads in the packets of a fake Wiimote. -/

namespace Fakemote

open Bytes Labelled

/-- The HID input report of a packet: its id and its body. -/
def hidReport (packet : List UInt8) : Option (UInt8 × List UInt8) :=
  match packet.drop (hciAclDataHdrSize + l2capHdrSize) with
  | header :: id :: body =>
      if header = ((hidTypeData <<< (4 : UInt8)) ||| hidParamInput) then some (id, body) else none
  | _ => none

def Reply.report (reply : Reply) : Option (UInt8 × List UInt8) := hidReport reply.data

theorem inputReportPacket_report (handle : UInt16) (wiimote : Session) (reportId : UInt8)
    (data : List UInt8) :
    hidReport (inputReportPacket handle wiimote reportId data) = some (reportId, data) := rfl

theorem signalPacket_report (handle : UInt16) {code : UInt8} (ident : UInt8)
    (payload : List UInt8) (signal : code ≠ ((hidTypeData <<< (4 : UInt8)) ||| hidParamInput)) :
    hidReport (signalPacket handle code ident payload) = none := by
  change (if code = _ then some (ident, _) else none) = none
  exact if_neg signal

-- The reports that are not data reports, and the lengths of their bodies. The host may ask for
-- data reports under the same ids.

def answerReports : List (UInt8 × Nat) :=
  [(inputReportIdStatus, 6), (inputReportIdReadDataReply, 21), (inputReportIdAck, 4)]

def Reply.IsDataReport (reply : Reply) : Prop :=
  ∃ id body, reply.report = some (id, body) ∧ (id, body.length) ∉ answerReports

theorem readMemory_length (memory : Nat → UInt8) (wiimote : Session) (size : Nat) :
    (Device.readMemory memory wiimote size).2.2.length ≤ size := by
  have none : ([] : List UInt8).length ≤ size := Nat.zero_le size
  unfold Device.readMemory
  dsimp only
  split
  · split
    · exact none
    · simp [Registers.read]
  · split
    · split
      · exact none
      · split
        · split
          · rename_i after data read
            exact Nat.le_of_eq (Device.extensionReadData_length read)
          · exact none
        · split
          · split
            · rename_i data read
              unfold Session.irCameraReadData at read
              split at read
              · cases read
              · cases read
                simp [Registers.read]
            · exact none
          · exact none
    · exact none

theorem chunkBody_length (memory : Nat → UInt8) (wiimote : Session) :
    (wiimote.chunkBody memory).length = 21 := by
  rcases reading : Device.readMemory memory wiimote wiimote.readSize with ⟨error, after, data⟩
  have short := readMemory_length memory wiimote wiimote.readSize
  rw [reading] at short
  have most : wiimote.readSize ≤ 16 := Nat.min_le_left _ _
  rw [Device.chunkBody_of_read reading]
  simp only [List.length_append, bytes16_length, List.length_cons, List.length_nil,
    List.length_replicate]
  dsimp only at short
  omega

theorem reportBody_length (memory : Nat → UInt8) (wiimote : Session) :
    (wiimote.reportBody memory).length =
      (if inputReportHasBtn wiimote.reportingMode then 2 else 0) +
        inputReportAccSize wiimote.reportingMode + inputReportIrSize wiimote.reportingMode +
        inputReportExtSize wiimote.reportingMode := by
  have acc : (if inputReportAccSize wiimote.reportingMode ≠ 0 then
      Device.accelerometerBytes wiimote else []).length =
        inputReportAccSize wiimote.reportingMode := by
    unfold inputReportAccSize
    split
    · rfl
    · rfl
  have button (word : UInt16) : (if inputReportHasBtn wiimote.reportingMode = true then
      bytes16 word else []).length =
        if inputReportHasBtn wiimote.reportingMode = true then 2 else 0 := by
    split
    · rfl
    · rfl
  unfold Session.reportBody
  simp only [List.length_append, Device.extensionReport_length, Registers.read_length,
    button, acc]

theorem reportBody_answers (memory : Nat → UInt8) (wiimote : Session) :
    (wiimote.reportingMode, (wiimote.reportBody memory).length) ∉ answerReports := by
  intro member
  rw [reportBody_length] at member
  simp only [answerReports, List.mem_cons, Prod.mk.injEq, List.not_mem_nil, or_false] at member
  rcases member with ⟨mode, size⟩ | ⟨mode, size⟩ | ⟨mode, size⟩
  · rw [mode] at size
    exact absurd size (by decide)
  · rw [mode] at size
    exact absurd size (by decide)
  · rw [mode] at size
    exact absurd size (by decide)

def extensionBit (body : List UInt8) : Bool := Device.reportBit (body.getD 2 0) 1

theorem statusFlags_extension (wiimote : Session) :
    Device.reportBit (statusFlags wiimote) 1 = decide (wiimote.curExtension ≠ .none) := by
  have leds : (wiimote.leds <<< (4 : UInt8)).toNat.testBit 1 = false := by
    rw [UInt8.toNat_shiftLeft, show ((4 : UInt8).toNat % 8) = 4 from rfl,
      show (2 ^ 8 : Nat) = 2 ^ 8 from rfl, Nat.testBit_mod_two_pow, Nat.testBit_shiftLeft]
    rfl
  have ir : (if wiimote.ir = true then (8 : UInt8) else 0).toNat.testBit 1 = false := by
    cases wiimote.ir <;> rfl
  unfold Device.reportBit statusFlags
  rw [UInt8.toNat_or, UInt8.toNat_or, Nat.testBit_or, Nat.testBit_or, leds, ir]
  by_cases attached : wiimote.curExtension ≠ .none
  · rw [if_pos attached, decide_eq_true attached]
    rfl
  · rw [if_neg attached, decide_eq_false attached]
    rfl

theorem statusPacket_report (handle : UInt16) (wiimote : Session) {padding : List UInt8}
    (length : padding.length = 2) :
    ∃ body, hidReport (statusPacket handle wiimote padding) = some (inputReportIdStatus, body) ∧
      body.length = 6 ∧ extensionBit body = decide (wiimote.curExtension ≠ .none) := by
  refine ⟨_, inputReportPacket_report _ _ _ _, ?_, ?_⟩
  · simp only [List.length_append, bytes16_length, List.length_cons, List.length_nil, length]
  · exact statusFlags_extension wiimote

theorem Deed.packet_report {egc : Platform} {handle : UInt16} {wiimote : Session} {deed : Deed}
    {data : List UInt8} (sent : deed.packet egc handle wiimote = some data)
    (other : ∀ placed, deed ≠ .report placed)
    (padded : deed.Padded) :
    ¬ Reply.IsDataReport ⟨data.length, data⟩ := by
  have signal {code ident : UInt8} {payload : List UInt8}
      (known : code ≠ ((hidTypeData <<< (4 : UInt8)) ||| hidParamInput)) :
      ¬ Reply.IsDataReport ⟨(signalPacket handle code ident payload).length,
        signalPacket handle code ident payload⟩ := by
    intro ⟨id, body, read, _⟩
    have none := signalPacket_report handle ident payload known
    cases none.symm.trans read
  have answer {packet body : List UInt8} {id : UInt8} (read : hidReport packet = some (id, body))
      (listed : (id, body.length) ∈ answerReports) :
      ¬ Reply.IsDataReport ⟨packet.length, packet⟩ := by
    intro ⟨id', body', read', unlisted⟩
    cases read.symm.trans read'
    exact unlisted listed
  cases deed with
  | request chn psm localCid =>
      cases sent
      exact signal (by decide)
  | configure chn placed =>
      cases sent
      exact signal (by decide)
  | recordMtu chn mtu ident options placed =>
      cases sent
      exact signal (by decide)
  | close chn ident dcid scid placed =>
      cases sent
      exact signal (by decide)
  | chunk placed =>
      cases sent
      apply answer (inputReportPacket_report _ _ _ _)
      rw [chunkBody_length]
      decide
  | write request placed =>
      cases sent
      exact answer (inputReportPacket_report _ _ _ _) (by simp [answerReports, inputReportIdAck])
  | ack rptId errorCode placed =>
      cases sent
      exact answer (inputReportPacket_report _ _ _ _) (by simp [answerReports, inputReportIdAck])
  | status padding placed =>
      cases sent
      obtain ⟨body, read, length, -⟩ :=
        statusPacket_report handle wiimote padded
      exact answer read (by simp [answerReports, length])
  | change padding placed =>
      cases sent
      obtain ⟨body, read, length, -⟩ :=
        statusPacket_report handle wiimote.afterChange padded
      exact answer read (by simp [answerReports, length])
  | report placed => exact absurd rfl (other placed)
  | finish => cases sent
  | recordCid chn remoteCid => cases sent
  | complete chn => cases sent
  | rumble on => cases sent
  | leds value => cases sent
  | mode id continuous => cases sent
  | ir on => cases sent
  | startRead started => cases sent
  | switch d v ext => cases sent
  | feed d v ext input accelerometer irDots => cases sent

end Fakemote
