import Fakemote.MemoryWrites

/-! Output reports of the host that are shorter than their structure: how far into the packet the
handlers read, and what such a report may change. -/

namespace Fakemote

open Bytes Program

def outputHeader : UInt8 := (hidTypeData <<< (4 : UInt8)) ||| hidParamOutput

def outputReportSize (id : UInt8) : Nat :=
  if id = outputReportIdReportMode then 2
  else if id = outputReportIdWriteData then 21
  else if id = outputReportIdReadData then 6
  else if id ∈ [outputReportIdLed, outputReportIdIrEnable, outputReportIdSpeakerEnable,
      outputReportIdSpeakerMute, outputReportIdIrEnable2] then 1
  else 0

/-- What a report that is too short is not to change. -/
structure Untouched (before after : Session) : Prop where
  eeprom : after.eeprom = before.eeprom
  extensionRegs : after.extensionRegs = before.extensionRegs
  irRegs : after.irRegs = before.irRegs
  reportingMode : after.reportingMode = before.reportingMode
  leds : after.leds = before.leds
  readRequest : after.readRequest = before.readRequest

def OnInterrupt (dev : Device) (dcid : UInt16) (p : Periphery) : Prop :=
  ∃ chn, (p.sessions dev.self).getChannelInfo dcid = some chn ∧
    ((p.sessions dev.self).channel chn).psm = l2capPsmHidIntr

/-- The handler reads only the payload, and a report that is shorter than its structure leaves the
Wiimote as it was, whatever bytes are behind it. -/
structure ReportStaysInside (payload : List UInt8) : Prop where
  reads : ∀ (dev : Device) (dcid : UInt16) (p : Periphery), OnInterrupt dev dcid p →
    dev.handleChannelData dcid payload (UInt16.ofNat payload.length) p ≠ .error .outOfBounds
  short : ∀ id, load8 payload 0 = .ok outputHeader → load8 payload 1 = .ok id →
    payload.length < 2 + outputReportSize id →
    ∀ (stale : List UInt8) (dev : Device) (dcid : UInt16) (p q : Periphery),
      OnInterrupt dev dcid p →
      dev.handleChannelData dcid (payload ++ stale) (UInt16.ofNat payload.length) p = .ok ((), q) →
      Untouched (p.sessions dev.self) (q.sessions dev.self)

/-- A write-data report, after its id, that is carried out: its size is from one to sixteen and its
range lies in the memory that it selects. -/
def CarriesOut (body : List UInt8) : Prop :=
  ∃ flags slave size address, load8 body 0 = .ok flags ∧ load8 body 1 = .ok slave ∧
    load16 body 2 = .ok address ∧ load8 body 4 = .ok size ∧
    size.toNat ≠ 0 ∧ size.toNat ≤ 16 ∧
    Device.storesWrite ((flags >>> (2 : UInt8)) &&& (3 : UInt8)) (slave >>> (1 : UInt8))
      address.toNat size.toNat = true

structure BodyComplete (id : UInt8) (body : List UInt8) : Prop where
  flags : 1 ≤ body.length
  mode : id = outputReportIdReportMode → 2 ≤ body.length
  read : id = outputReportIdReadData → 6 ≤ body.length
  write : id = outputReportIdWriteData → 5 ≤ body.length ∧ (CarriesOut body → 21 ≤ body.length)

/-- The packet is not empty, and an output report in it ends at once or is complete. -/
def ReportComplete (payload : List UInt8) : Prop :=
  payload ≠ [] ∧ (load8 payload 0 = .ok outputHeader → payload.length = 1 ∨
    ∃ id, load8 payload 1 = .ok id ∧ BodyComplete id (payload.drop 2))

namespace Device

variable (dev : Device)

theorem inBounds_fakeWiimoteProcessWriteRequest {body : List UInt8} (header : 5 ≤ body.length)
    (data : CarriesOut body → 21 ≤ body.length) :
    InBounds (dev.fakeWiimoteProcessWriteRequest body) := by
  obtain ⟨size, sizeAt⟩ := load8_readable.mpr (show 4 < body.length by omega)
  obtain ⟨flags, flagsAt⟩ := load8_readable.mpr (show 0 < body.length by omega)
  obtain ⟨slave, slaveAt⟩ := load8_readable.mpr (show 1 < body.length by omega)
  obtain ⟨address, addressAt⟩ := load16_readable.mpr (show 2 + 2 ≤ body.length by omega)
  refine InBounds.loaded sizeAt ?_
  by_cases ignored : size.toNat = 0 ∨ 16 < size.toNat
  · dsimp only
    rw [if_pos ignored]
    exact Raises.pure ()
  · dsimp only
    rw [if_neg ignored]
    refine InBounds.loaded flagsAt (InBounds.loaded slaveAt (InBounds.loaded addressAt ?_))
    have read : InBounds (liftM (writeData body (storesWrite ((flags >>> (2 : UInt8)) &&&
        (3 : UInt8)) (slave >>> (1 : UInt8)) address.toNat size.toNat) size.toNat) :
        P (List UInt8)) := by
      unfold writeData
      split
      · rename_i stored
        have whole := data ⟨flags, slave, size, address, flagsAt, slaveAt, addressAt, sizeAt,
          by omega, by omega, stored⟩
        exact inBounds_loadBytes (by omega)
      · exact Raises.pure _
    exact Raises.bind read fun _ => Raises.bind (inBounds_getSession _) fun _ =>
      Raises.bind (inBounds_modifySession _ _) fun _ =>
      Raises.bind (dev.inBounds_wiimoteSendAck _ _) fun _ => Raises.pure ()

theorem inBounds_handleReadData {body : List UInt8} (whole : 6 ≤ body.length) :
    InBounds (dev.handleReadData body) := by
  refine Raises.bind (inBounds_getSession _) fun wiimote => Raises.ite ?_ ?_
  · exact Raises.bind (dev.inBounds_wiimoteSendAck _ _) fun _ => Raises.pure ()
  · exact Raises.bind (inBounds_load8 (by omega)) fun _ =>
      Raises.bind (inBounds_load8 (by omega)) fun _ =>
      Raises.bind (inBounds_load16 (by omega)) fun _ =>
      Raises.bind (inBounds_load16 (by omega)) fun _ =>
      Raises.bind (inBounds_modifySession _ _) fun _ =>
      Raises.bind dev.inBounds_fakeWiimoteProcessReadRequest fun _ => Raises.pure ()

theorem inBounds_handleOutputReport {id flags : UInt8} {body : List UInt8}
    (complete : BodyComplete id body) : InBounds (dev.handleOutputReport id flags body) := by
  unfold handleOutputReport
  by_cases rumble : id = outputReportIdRumble
  · rw [if_pos rumble]
    exact Raises.pure ()
  rw [if_neg rumble]
  by_cases led : id = outputReportIdLed
  · rw [if_pos led]
    exact Raises.bind (inBounds_modifySession _ _) fun _ =>
      Raises.bind (inBounds_inputDeviceSetLeds _ _ _) fun _ => dev.inBounds_ackReport _ _
  rw [if_neg led]
  by_cases mode : id = outputReportIdReportMode
  · rw [if_pos mode]
    exact Raises.bind (inBounds_load8 (complete.mode mode)) fun _ =>
      Raises.bind (inBounds_modifySession _ _) fun _ => dev.inBounds_ackReport _ _
  rw [if_neg mode]
  refine Raises.ite ?_ (Raises.ite ?_ (Raises.ite ?_ ?_))
  · exact Raises.bind (inBounds_modifySession _ _) fun _ => dev.inBounds_ackReport _ _
  · exact dev.inBounds_ackReport _ _
  · exact Raises.bind dev.inBounds_wiimoteSendInputReportStatus fun _ => Raises.pure ()
  by_cases write : id = outputReportIdWriteData
  · rw [if_pos write]
    obtain ⟨header, data⟩ := complete.write write
    exact dev.inBounds_fakeWiimoteProcessWriteRequest header data
  rw [if_neg write]
  by_cases read : id = outputReportIdReadData
  · rw [if_pos read]
    exact dev.inBounds_handleReadData (complete.read read)
  rw [if_neg read]
  refine Raises.ite (Raises.pure ()) (Raises.ite (dev.inBounds_ackReport _ _)
    (Raises.ite (dev.inBounds_ackReport _ _) (Raises.throw ?_)))
  nofun

theorem handleChannelData_output {p : Periphery} {dcid length : UInt16} {memory : List UInt8}
    (onInterrupt : OnInterrupt dev dcid p) (some : 2 ≤ length.toNat)
    (header : load8 memory 0 = .ok outputHeader) :
    dev.handleChannelData dcid memory length p =
      (do let flags ← load8 memory 2
          dev.fakeWiimoteUpdateRumble (reportBit flags 0)
          let id ← load8 memory 1
          dev.handleOutputReport id flags (memory.drop 2) : P Unit) p := by
  obtain ⟨chn, valid, interrupt⟩ := onInterrupt
  have got : getSession dev.self p = .ok (p.sessions dev.self, p) := rfl
  have more : ¬ length - 1 = 0 := by
    intro none
    have size := congrArg UInt16.toNat none
    have one : (1 : UInt16) ≤ length := by
      rw [UInt16.le_iff_toNat_le]
      exact Nat.le_of_succ_le some
    rw [UInt16.toNat_sub_of_le _ _ one] at size
    simp only [UInt16.toNat_one, UInt16.toNat_zero] at size
    omega
  have output : outputHeader = ((hidTypeData <<< (4 : UInt8)) ||| hidParamOutput) := rfl
  unfold handleChannelData
  rw [bind_run got, valid]
  dsimp only
  rw [if_pos interrupt, header, bind_run (lift_run_ok _ p)]
  unfold when handleHidIntrDataOutput
  rw [if_pos output, if_neg more, load8_drop, load8_drop, List.drop_drop]

theorem handleChannelData_report {p : Periphery} {dcid length : UInt16} {memory : List UInt8}
    {id flags : UInt8} (onInterrupt : OnInterrupt dev dcid p) (some : 2 ≤ length.toNat)
    (header : load8 memory 0 = .ok outputHeader) (idAt : load8 memory 1 = .ok id)
    (flagsAt : load8 memory 2 = .ok flags) :
    dev.handleChannelData dcid memory length p =
      (dev.fakeWiimoteUpdateRumble (reportBit flags 0) >>= fun _ =>
        dev.handleOutputReport id flags (memory.drop 2)) p := by
  rw [dev.handleChannelData_output onInterrupt some header, flagsAt, bind_run (lift_run_ok _ p),
    idAt]
  rfl

theorem inBounds_handleChannelData {payload : List UInt8} (complete : ReportComplete payload)
    (dcid : UInt16) :
    InBounds (dev.handleChannelData dcid payload (UInt16.ofNat payload.length)) := by
  obtain ⟨filled, output⟩ := complete
  obtain ⟨header, headerAt⟩ := load8_readable.mpr (List.length_pos_iff.mpr filled)
  refine Raises.bind (inBounds_getSession _) fun wiimote => ?_
  split
  · exact Raises.pure ()
  · refine Raises.ite (InBounds.loaded headerAt ?_) (Raises.pure ())
    unfold when
    split
    · rename_i isOutput
      rw [isOutput] at headerAt
      unfold handleHidIntrDataOutput
      rcases output headerAt with alone | ⟨id, idAt, body⟩
      · have ended : UInt16.ofNat 1 - 1 = 0 := by decide
        rw [alone, if_pos ended]
        exact Raises.pure ()
      · have flags := body.flags
        rw [List.length_drop] at flags
        obtain ⟨flags, flagsAt⟩ := load8_readable.mpr (show 2 < payload.length by omega)
        refine Raises.ite (Raises.pure ()) ?_
        refine InBounds.loaded ((load8_drop payload 1 1).trans flagsAt) ?_
        refine Raises.bind (dev.inBounds_fakeWiimoteUpdateRumble _) fun _ => ?_
        refine InBounds.loaded ((load8_drop payload 1 0).trans idAt) ?_
        rw [List.drop_drop]
        exact dev.inBounds_handleOutputReport body
    · exact Raises.pure ()

end Device

theorem Untouched.refl (wiimote : Session) : Untouched wiimote wiimote := ⟨rfl, rfl, rfl, rfl, rfl, rfl⟩

theorem load8_append_front {buffer : List UInt8} {offset : Nat} {byte : UInt8} (after : List UInt8)
    (loaded : load8 buffer offset = .ok byte) : load8 (buffer ++ after) offset = .ok byte := by
  have inside := load8_readable.mp ⟨byte, loaded⟩
  unfold load8 Bytes.load8 at loaded ⊢
  rw [List.getElem?_append_left inside]
  exact loaded

theorem load16_append_front {buffer : List UInt8} {offset : Nat} {word : UInt16} (after : List UInt8)
    (loaded : load16 buffer offset = .ok word) : load16 (buffer ++ after) offset = .ok word := by
  have inside := load16_readable.mp ⟨word, loaded⟩
  unfold load16 Bytes.load16 at loaded ⊢
  rw [List.getElem?_append_left (by omega), List.getElem?_append_left (by omega)]
  exact loaded

/-- The rumble bit is not part of what a short report is to leave. -/
theorem fakeWiimoteUpdateRumble_untouched {dev : Device} {rumbleOn : Bool} {p q : Periphery}
    {u : Unit} (run : dev.fakeWiimoteUpdateRumble rumbleOn p = .ok (u, q)) :
    Untouched (p.sessions dev.self) (q.sessions dev.self) := by
  obtain ⟨wiimote, _, got, run⟩ := bind_ok.mp run
  cases got
  unfold when at run
  split at run
  · obtain ⟨_, p1, changed, run⟩ := bind_ok.mp run
    cases changed
    obtain ⟨d, _, device, run⟩ := bind_ok.mp run
    obtain ⟨-, rfl⟩ := lift_ok.mp device
    cases run
    simp only [Function.update_self]
    exact ⟨rfl, rfl, rfl, rfl, rfl, rfl⟩
  · cases run
    exact Untouched.refl _

theorem wiimoteSendAck_sessions {dev : Device} {rptId errorCode : UInt8} {p q : Periphery}
    {ret : IosResult} (run : dev.wiimoteSendAck rptId errorCode p = .ok (ret, q)) :
    q.sessions = p.sessions := by
  have sent := (Device.wiimoteSendAck_air run).2
  exact congrArg Air.sessions sent

theorem processWriteRequest_untouched {dev : Device} {body after : List UInt8} {p q : Periphery}
    {u : Unit} (header : 5 ≤ body.length) (refused : ¬ CarriesOut body)
    (run : dev.fakeWiimoteProcessWriteRequest (body ++ after) p = .ok (u, q)) :
    q.sessions dev.self = p.sessions dev.self := by
  obtain ⟨size, sizeAt⟩ := load8_readable.mpr (show 4 < body.length by omega)
  obtain ⟨flags, flagsAt⟩ := load8_readable.mpr (show 0 < body.length by omega)
  obtain ⟨slave, slaveAt⟩ := load8_readable.mpr (show 1 < body.length by omega)
  obtain ⟨address, addressAt⟩ := load16_readable.mpr (show 2 + 2 ≤ body.length by omega)
  unfold Device.fakeWiimoteProcessWriteRequest at run
  rw [load8_append_front after sizeAt, bind_run (lift_run_ok _ p)] at run
  by_cases ignored : size.toNat = 0 ∨ 16 < size.toNat
  · rw [if_pos ignored] at run
    cases run
    rfl
  · rw [if_neg ignored, load8_append_front after flagsAt, bind_run (lift_run_ok _ p),
      load8_append_front after slaveAt, bind_run (lift_run_ok _ p), load16_append_front after addressAt,
      bind_run (lift_run_ok _ p)] at run
    have notStored : ¬ Device.storesWrite ((flags >>> (2 : UInt8)) &&& (3 : UInt8))
        (slave >>> (1 : UInt8)) address.toNat size.toNat = true := by
      intro stored
      exact refused ⟨flags, slave, size, address, flagsAt, slaveAt, addressAt, sizeAt, by omega,
        by omega, stored⟩
    have same : (Device.writeMemory (p.sessions dev.self)
        ⟨(flags >>> (2 : UInt8)) &&& (3 : UInt8), slave >>> (1 : UInt8), address,
          List.replicate size.toNat 0⟩).2 = p.sessions dev.self := by
      rw [writeMemory_target]
      dsimp only
      split
      · rename_i m target
        have large : m.size < address.toNat + (List.replicate size.toNat (0 : UInt8)).length := by
          by_contra fits
          rw [List.length_replicate] at fits
          exact notStored (storesWrite_iff.mpr ⟨m, target, Nat.not_lt.mp fits⟩)
        rw [if_pos large]
      · rfl
    dsimp only at run
    unfold Device.writeData at run
    rw [if_neg notStored, bind_run (lift_run_ok _ p)] at run
    obtain ⟨wiimote, _, got, run⟩ := bind_ok.mp run
    cases got
    obtain ⟨_, p1, changed, run⟩ := bind_ok.mp run
    cases changed
    obtain ⟨ret, p2, reply, run⟩ := bind_ok.mp run
    cases run
    have sessions := wiimoteSendAck_sessions reply
    rw [sessions]
    dsimp only
    rw [Function.update_self]
    exact same

theorem handleOutputReport_write (dev : Device) (flags : UInt8) (body : List UInt8) :
    dev.handleOutputReport outputReportIdWriteData flags body =
      dev.fakeWiimoteProcessWriteRequest body := rfl

theorem BodyComplete.short {id : UInt8} {body : List UInt8} (complete : BodyComplete id body)
    (short : body.length < outputReportSize id) :
    id = outputReportIdWriteData ∧ 5 ≤ body.length ∧ ¬ CarriesOut body := by
  unfold outputReportSize at short
  by_cases mode : id = outputReportIdReportMode
  · rw [if_pos mode] at short
    have whole := complete.mode mode
    omega
  rw [if_neg mode] at short
  by_cases write : id = outputReportIdWriteData
  · rw [if_pos write] at short
    obtain ⟨header, data⟩ := complete.write write
    refine ⟨write, header, ?_⟩
    intro carried
    have whole := data carried
    omega
  rw [if_neg write] at short
  by_cases read : id = outputReportIdReadData
  · rw [if_pos read] at short
    have whole := complete.read read
    omega
  rw [if_neg read] at short
  have whole := complete.flags
  split at short
  · omega
  · omega

theorem ReportComplete.staysInside {payload : List UInt8} (complete : ReportComplete payload)
    (narrow : payload.length < 65536) : ReportStaysInside payload := by
  constructor
  · exact fun dev dcid p _ => (dev.inBounds_handleChannelData complete dcid).run p
  · intro id headerAt idAt short stale dev dcid p q onInterrupt run
    have two := load8_readable.mp ⟨id, idAt⟩
    rcases complete.2 headerAt with alone | ⟨id', idAt', body⟩
    · omega
    · rw [idAt, Except.ok.injEq] at idAt'
      subst idAt'
      obtain ⟨write, header, refused⟩ := body.short (by rw [List.length_drop]; omega)
      subst write
      rw [List.length_drop] at header
      obtain ⟨flags, flagsAt⟩ := load8_readable.mpr (show 2 < payload.length by omega)
      have size : (UInt16.ofNat payload.length).toNat = payload.length :=
        UInt16.toNat_ofNat_of_lt' narrow
      rw [dev.handleChannelData_report onInterrupt (by omega) (load8_append_front stale headerAt)
        (load8_append_front stale idAt) (load8_append_front stale flagsAt),
        List.drop_append_of_le_length (by omega)] at run
      obtain ⟨_, p1, rumble, run⟩ := bind_ok.mp run
      rw [handleOutputReport_write] at run
      have kept := processWriteRequest_untouched (by rw [List.length_drop]; omega) refused run
      have before := fakeWiimoteUpdateRumble_untouched rumble
      rw [kept]
      exact before

def reportDevice : Device := ⟨(World.init .lenient).core, 0⟩

def reportPeriphery (registers : Registers) (rumbleOn : Bool) : Periphery :=
  { (World.init .lenient).periphery with
    sessions := fun _ =>
      { Session.zero with
        psmHidIntrChn := ⟨true, .complete, l2capPsmHidIntr, 0x41, 0x51, wiiRequestMtu⟩
        rumbleOn := rumbleOn
        eeprom := registers
        irRegs := registers
        extensionRegs := registers } }

theorem reportPeriphery_onInterrupt (registers : Registers) (rumbleOn : Bool) :
    OnInterrupt reportDevice 0x41 (reportPeriphery registers rumbleOn) :=
  ⟨.hidIntr, rfl, rfl⟩

theorem reportDevice_run {memory : List UInt8} {length : UInt16} {id flags : UInt8}
    (registers : Registers) (some : 2 ≤ length.toNat)
    (header : load8 memory 0 = .ok outputHeader) (idAt : load8 memory 1 = .ok id)
    (flagsAt : load8 memory 2 = .ok flags) :
    reportDevice.handleChannelData 0x41 memory length
        (reportPeriphery registers (Device.reportBit flags 0)) =
      reportDevice.handleOutputReport id flags (memory.drop 2)
        (reportPeriphery registers (Device.reportBit flags 0)) := by
  rw [reportDevice.handleChannelData_report (reportPeriphery_onInterrupt _ _) some header idAt
    flagsAt]
  apply bind_run
  unfold Device.fakeWiimoteUpdateRumble
  have got : getSession reportDevice.self (reportPeriphery registers (Device.reportBit flags 0)) =
      .ok ((reportPeriphery registers (Device.reportBit flags 0)).sessions 0, _) := rfl
  have same : ¬ Device.reportBit flags 0 ≠
      ((reportPeriphery registers (Device.reportBit flags 0)).sessions 0).rumbleOn := not_not.mpr rfl
  rw [bind_run got]
  unfold when
  rw [if_neg same]
  rfl

theorem wiimoteSendAck_runs (dev : Device) {p : Periphery} {junk : Nat → UInt8}
    (allocates : p.heap.outcome p.heap.calls = some junk) (rptId errorCode : UInt8) :
    ∃ ret q, dev.wiimoteSendAck rptId errorCode p = .ok (ret, q) := by
  have got : getSession dev.self p = .ok (p.sessions dev.self, p) := rfl
  have small : assertThat ((bytes16 (p.sessions dev.self).buttons ++ [rptId, errorCode]).length ≤
      wiimoteMaxPayload - 2) .hidReportSize p = .ok ((), p) := rfl
  have whole : assertThat ((inputReportIdAck :: (bytes16 (p.sessions dev.self).buttons ++
      [rptId, errorCode])).length ≤ wiimoteMaxPayload - 1) .hidReportSize p = .ok ((), p) := rfl
  unfold Device.wiimoteSendAck
  rw [bind_run got]
  unfold Device.sendHidInputReport
  rw [bind_run got, bind_run small]
  unfold Device.sendHidData
  rw [bind_run whole]
  have builds := @builds_l2capPacket dev.conHandle (p.sessions dev.self).psmHidIntrChn.remoteCid
    (((hidTypeData <<< (4 : UInt8)) ||| hidParamInput) :: inputReportIdAck ::
      (bytes16 (p.sessions dev.self).buttons ++ [rptId, errorCode])) (show 6 + 8 < 65536 by decide)
  exact ⟨_, _, builds p junk allocates⟩

theorem succ_ne (byte : UInt8) : byte ≠ byte + 1 := by
  intro same
  have values := congrArg UInt8.toNat same
  have bound := byte.toNat_lt
  simp only [UInt8.toNat_add, UInt8.reduceToNat] at values
  omega

/-- A write that is carried out is seen where the bytes were different. -/
theorem carried_out_changes (report : WriteReport) (after : List UInt8) (rumbleOn : Bool)
    (nonzero : report.size.toNat ≠ 0) (most : report.size.toNat ≤ 16)
    (stored : Device.storesWrite report.space report.slaveAddress report.address.toNat
      report.size.toNat = true) :
    ∃ q m, reportDevice.fakeWiimoteProcessWriteRequest (report.bytes ++ after)
        (reportPeriphery (fun _ => report.data.getD 0 0 + 1) rumbleOn) = .ok ((), q) ∧
      (q.sessions 0).memory m ≠ fun _ => report.data.getD 0 0 + 1 := by
  obtain ⟨m, target, fits⟩ := storesWrite_iff.mp stored
  have run := processWriteRequest_run reportDevice
    (reportPeriphery (fun _ => report.data.getD 0 0 + 1) rumbleOn) report after nonzero most
  rw [writeMemory_fits most target fits] at run
  obtain ⟨ret, q, sent⟩ := @wiimoteSendAck_runs reportDevice
    { reportPeriphery (fun _ => report.data.getD 0 0 + 1) rumbleOn with
      sessions := Function.update
        (reportPeriphery (fun _ => report.data.getD 0 0 + 1) rumbleOn).sessions reportDevice.self
        (((reportPeriphery (fun _ => report.data.getD 0 0 + 1) rumbleOn).sessions
          reportDevice.self).store report.address.toNat report.written m) }
    (fun _ => 0) rfl outputReportIdWriteData errorCodeSuccess
  refine ⟨q, m, run.trans (bind_run sent), ?_⟩
  have memory : (q.sessions 0).memory m =
      (((reportPeriphery (fun _ => report.data.getD 0 0 + 1) rumbleOn).sessions 0).memory m).write
        report.address.toNat report.written := by
    rw [wiimoteSendAck_sessions sent]
    exact Session.memory_store _ _ _ _
  intro same
  have first := congrFun (memory.symm.trans same) report.address.toNat
  have inside : report.address.toNat ≤ report.address.toNat ∧
      report.address.toNat < report.address.toNat + report.written.length := by
    rw [report.written_length most]
    omega
  have byte : report.written.getD 0 0 = report.data.getD 0 0 := by
    rw [WriteReport.written, List.getD_eq_getElem?_getD,
      List.getElem?_take_of_lt (show 0 < report.size.toNat by omega), List.getD_eq_getElem?_getD]
  rw [Registers.write, if_pos inside, Nat.sub_self, byte] at first
  exact succ_ne _ first

theorem writeReport_of_fields {body : List UInt8} (whole : 21 ≤ body.length) {flags slave size : UInt8}
    {address : UInt16} (flagsAt : load8 body 0 = .ok flags) (slaveAt : load8 body 1 = .ok slave)
    (addressAt : load16 body 2 = .ok address) (sizeAt : load8 body 4 = .ok size) :
    ∃ report : WriteReport, ∃ after, body = report.bytes ++ after ∧ report.flags = flags ∧
      report.slave = slave ∧ report.address = address ∧ report.size = size := by
  match body, whole with
  | f :: sl :: hi :: lo :: si :: rest, whole =>
      have length : (rest.take 16).length = 16 := by
        simp only [List.length_cons] at whole
        rw [List.length_take]
        omega
      refine ⟨⟨f, sl, word16 hi lo, si, rest.take 16, length⟩, rest.drop 16, ?_, ?_, ?_, ?_, ?_⟩
      · simp [WriteReport.bytes, bytes16]
      · exact Except.ok.inj flagsAt
      · exact Except.ok.inj slaveAt
      · exact Except.ok.inj addressAt
      · exact Except.ok.inj sizeAt

section Beyond

variable {dev : Device} {p : Periphery} {flags : UInt8} {body : List UInt8}

theorem handleOutputReport_mode_short (short : body.length < 2) :
    dev.handleOutputReport outputReportIdReportMode flags body p = .error .outOfBounds := by
  unfold Device.handleOutputReport
  rw [if_neg (by decide), if_neg (by decide), if_pos rfl, load8_beyond (by omega)]
  rfl

theorem handleOutputReport_write_short (short : body.length < 5) :
    dev.handleOutputReport outputReportIdWriteData flags body p = .error .outOfBounds := by
  rw [handleOutputReport_write]
  unfold Device.fakeWiimoteProcessWriteRequest
  rw [load8_beyond (by omega)]
  rfl

theorem handleOutputReport_read_short (idle : (p.sessions dev.self).readRequest.size = 0)
    (short : body.length < 6) :
    dev.handleOutputReport outputReportIdReadData flags body p = .error .outOfBounds := by
  have got : getSession dev.self p = .ok (p.sessions dev.self, p) := rfl
  change dev.handleReadData body p = _
  unfold Device.handleReadData
  rw [bind_run got, if_neg (not_not.mpr idle), load16_beyond (show body.length < 4 + 2 by omega)]
  -- one of the earlier fields may be missing too
  cases flagsAt : load8 body 0 with
  | error fault =>
      have only : fault = .outOfBounds := orFault_error flagsAt
      rw [only]
      rfl
  | ok flags =>
      cases slaveAt : load8 body 1 with
      | error fault =>
          have only : fault = .outOfBounds := orFault_error slaveAt
          rw [only]
          rfl
      | ok slave =>
          cases addressAt : load16 body 2 with
          | error fault =>
              have only : fault = .outOfBounds := orFault_error addressAt
              rw [only]
              rfl
          | ok address => rfl

end Beyond

/-- A report without a byte for its flags is read behind the packet. -/
theorem ReportStaysInside.flags {payload : List UInt8} (stays : ReportStaysInside payload)
    (narrow : payload.length < 65536) (headerAt : load8 payload 0 = .ok outputHeader)
    (more : payload.length ≠ 1) : 3 ≤ payload.length := by
  have one := load8_readable.mp ⟨outputHeader, headerAt⟩
  have size : (UInt16.ofNat payload.length).toNat = payload.length :=
    UInt16.toNat_ofNat_of_lt' narrow
  by_contra short
  have onInterrupt := reportPeriphery_onInterrupt (fun _ => 0) false
  apply stays.reads reportDevice 0x41 _ onInterrupt
  rw [reportDevice.handleChannelData_output onInterrupt (by omega) headerAt,
    load8_beyond (by omega)]
  rfl

theorem ReportStaysInside.write {payload : List UInt8} (stays : ReportStaysInside payload)
    (narrow : payload.length < 65536) (headerAt : load8 payload 0 = .ok outputHeader)
    (idAt : load8 payload 1 = .ok outputReportIdWriteData)
    (carried : CarriesOut (payload.drop 2)) : 23 ≤ payload.length := by
  obtain ⟨flags, slave, size, address, flagsAt, slaveAt, addressAt, sizeAt, nonzero, most, stored⟩ :=
    carried
  have length : (UInt16.ofNat payload.length).toNat = payload.length :=
    UInt16.toNat_ofNat_of_lt' narrow
  have three := load8_readable.mp ⟨flags, flagsAt⟩
  rw [List.length_drop] at three
  by_contra short
  have fills : (payload ++ List.replicate 21 0).drop 2 =
      payload.drop 2 ++ List.replicate 21 0 := List.drop_append_of_le_length (by omega)
  obtain ⟨report, after, same, rfl, rfl, rfl, rfl⟩ := writeReport_of_fields
    (show 21 ≤ (payload.drop 2 ++ List.replicate 21 0).length by
      rw [List.length_append, List.length_replicate]; omega)
    (load8_append_front _ flagsAt) (load8_append_front _ slaveAt) (load16_append_front _ addressAt)
    (load8_append_front _ sizeAt)
  obtain ⟨q, m, run, changed⟩ := carried_out_changes report after
    (Device.reportBit report.flags 0) nonzero most stored
  have flagsAt' : load8 payload 2 = .ok report.flags := (load8_drop payload 2 0).symm.trans flagsAt
  have whole := @reportDevice_run (payload ++ List.replicate 21 0) (UInt16.ofNat payload.length)
    outputReportIdWriteData report.flags (fun _ => report.data.getD 0 0 + 1) (by omega)
    (load8_append_front _ headerAt) (load8_append_front _ idAt) (load8_append_front _ flagsAt')
  rw [fills, same, handleOutputReport_write, run] at whole
  have kept := stays.short outputReportIdWriteData headerAt idAt (show payload.length < 23 by omega)
    _ _ _ _ _ (reportPeriphery_onInterrupt _ _) whole
  apply changed
  cases m with
  | eeprom => exact kept.eeprom
  | extension => exact kept.extensionRegs
  | camera => exact kept.irRegs

theorem ReportStaysInside.complete {payload : List UInt8} (stays : ReportStaysInside payload)
    (narrow : payload.length < 65536) : ReportComplete payload := by
  have size : (UInt16.ofNat payload.length).toNat = payload.length :=
    UInt16.toNat_ofNat_of_lt' narrow
  constructor
  · rintro rfl
    exact stays.reads reportDevice 0x41 _ (reportPeriphery_onInterrupt (fun _ => 0) false) rfl
  · intro headerAt
    by_cases alone : payload.length = 1
    · exact Or.inl alone
    · right
      have three := stays.flags narrow headerAt alone
      obtain ⟨id, idAt⟩ := load8_readable.mpr (show 1 < payload.length by omega)
      obtain ⟨flags, flagsAt⟩ := load8_readable.mpr (show 2 < payload.length by omega)
      have run := @reportDevice_run payload (UInt16.ofNat payload.length) id flags (fun _ => 0)
        (by omega) headerAt idAt flagsAt
      have inside := stays.reads reportDevice 0x41 _
        (reportPeriphery_onInterrupt (fun _ => 0) (Device.reportBit flags 0))
      rw [run] at inside
      refine ⟨id, idAt, ?_, ?_, ?_, ?_⟩
      · rw [List.length_drop]
        omega
      · rintro rfl
        by_contra short
        exact inside (handleOutputReport_mode_short (Nat.not_le.mp short))
      · rintro rfl
        by_contra short
        exact inside (handleOutputReport_read_short rfl (Nat.not_le.mp short))
      · rintro rfl
        constructor
        · by_contra short
          exact inside (handleOutputReport_write_short (Nat.not_le.mp short))
        · intro carried
          have whole := stays.write narrow headerAt idAt carried
          rw [List.length_drop]
          omega

/-- A packet on the interrupt channel is read inside its payload, and is without effect when it is
too short, exactly when it is complete as far as it is used. -/
theorem report_stays_inside (payload : List UInt8) (narrow : payload.length < 65536) :
    ReportStaysInside payload ↔ ReportComplete payload :=
  ⟨fun stays => stays.complete narrow, fun complete => complete.staysInside narrow⟩

/-- A report that sets the LEDs. -/
theorem report_stays_inside_leds : ReportStaysInside [0xA2, 0x11, 0x10] := by
  refine (report_stays_inside [0xA2, 0x11, 0x10] (by decide)).mpr ⟨by decide, fun _ => Or.inr ?_⟩
  exact ⟨0x11, rfl, by decide, nofun, nofun, nofun⟩

/-- A write to the extension registers that ends with its size: the sixteen bytes behind the packet
are read. -/
theorem write_without_data_read : ¬ ReportStaysInside [0xA2, 0x16, 0x04, 0xA4, 0, 0, 16] := by
  intro stays
  have carried : CarriesOut [0x04, 0xA4, 0, 0, 16] :=
    ⟨0x04, 0xA4, 16, 0, rfl, rfl, rfl, rfl, by decide, by decide, by decide⟩
  have whole := stays.write (by decide) rfl rfl carried
  exact absurd whole (by decide)

end Fakemote
