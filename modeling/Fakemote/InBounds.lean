import Fakemote.InjectedPackets

/-! Programs that read nothing outside the memory that is there, whatever else may stop them. -/

namespace Fakemote

open Bytes Program

/-- No execution faults outside the memory that is there. -/
def InBounds {σ α : Type} (m : Prog σ Fault α) : Prop := Raises (· ≠ .outOfBounds) m

theorem InBounds.run {σ α : Type} {m : Prog σ Fault α} (inBounds : InBounds m) (s : σ) :
    m s ≠ .error .outOfBounds := by
  intro fault
  exact inBounds s _ fault rfl

theorem load8_readable {buffer : List UInt8} {offset : Nat} :
    (∃ byte, load8 buffer offset = .ok byte) ↔ offset < buffer.length := by
  unfold load8 Bytes.load8
  constructor
  · rintro ⟨byte, run⟩
    exact (List.getElem?_eq_some_iff.mp (orFault_ok.mp run)).1
  · intro inside
    exact ⟨buffer[offset], orFault_ok.mpr (List.getElem?_eq_getElem inside)⟩

theorem load8_beyond {buffer : List UInt8} {offset : Nat} (beyond : buffer.length ≤ offset) :
    load8 buffer offset = .error .outOfBounds := by
  unfold load8 Bytes.load8
  rw [List.getElem?_eq_none beyond]
  rfl

theorem load16_readable {buffer : List UInt8} {offset : Nat} :
    (∃ word, load16 buffer offset = .ok word) ↔ offset + 2 ≤ buffer.length := by
  unfold load16
  constructor
  · rintro ⟨word, run⟩
    exact load16_room (orFault_ok.mp run)
  · intro room
    obtain ⟨word, loaded⟩ := load16_some room
    exact ⟨word, orFault_ok.mpr loaded⟩

theorem load16_beyond {buffer : List UInt8} {offset : Nat} (beyond : buffer.length < offset + 2) :
    load16 buffer offset = .error .outOfBounds := by
  cases run : load16 buffer offset with
  | ok word =>
      have room := load16_readable.mp ⟨word, run⟩
      omega
  | error fault =>
      have only : fault = .outOfBounds := orFault_error run
      rw [only]

theorem loadBytes_readable {buffer : List UInt8} {offset count : Nat} :
    (∃ bytes, loadBytes buffer offset count = .ok bytes) ↔ offset + count ≤ buffer.length := by
  unfold loadBytes Bytes.loadBytes
  constructor
  · rintro ⟨bytes, run⟩
    rw [orFault_ok] at run
    split at run
    · assumption
    · cases run
  · intro room
    rw [if_pos room]
    exact ⟨_, rfl⟩

theorem loadBytes_beyond {buffer : List UInt8} {offset count : Nat}
    (beyond : buffer.length < offset + count) :
    loadBytes buffer offset count = .error .outOfBounds := by
  unfold loadBytes Bytes.loadBytes
  rw [if_neg (Nat.not_le.mpr beyond)]
  rfl

theorem load8_drop (buffer : List UInt8) (start offset : Nat) :
    load8 (buffer.drop start) offset = load8 buffer (start + offset) := by
  unfold load8 Bytes.load8
  rw [List.getElem?_drop]

theorem load16_drop (buffer : List UInt8) (start offset : Nat) :
    load16 (buffer.drop start) offset = load16 buffer (start + offset) := by
  unfold load16 Bytes.load16
  rw [List.getElem?_drop, List.getElem?_drop, Nat.add_assoc]

section Loads

variable {σ α : Type} {buffer : List UInt8} {offset : Nat}

theorem inBounds_load8 (inside : offset < buffer.length) :
    InBounds (liftM (load8 buffer offset) : Prog σ Fault UInt8) := by
  obtain ⟨byte, loaded⟩ := load8_readable.mpr inside
  apply Raises.lift
  intro e fault
  rw [loaded] at fault
  cases fault

theorem inBounds_load16 (inside : offset + 2 ≤ buffer.length) :
    InBounds (liftM (load16 buffer offset) : Prog σ Fault UInt16) := by
  obtain ⟨word, loaded⟩ := load16_readable.mpr inside
  apply Raises.lift
  intro e fault
  rw [loaded] at fault
  cases fault

theorem inBounds_loadBytes {count : Nat} (inside : offset + count ≤ buffer.length) :
    InBounds (liftM (loadBytes buffer offset count) : Prog σ Fault (List UInt8)) := by
  obtain ⟨bytes, loaded⟩ := loadBytes_readable.mpr inside
  apply Raises.lift
  intro e fault
  rw [loaded] at fault
  cases fault

theorem InBounds.loaded {β : Type} {x : Except Fault α} {a : α} {f : α → Prog σ Fault β}
    (read : x = .ok a) (rest : InBounds (f a)) : InBounds (liftM x >>= f) := by
  intro s e run
  rw [read, bind_run (lift_run_ok a s)] at run
  exact rest s e run

theorem inBounds_deref (x : Option α) : InBounds (liftM (deref x) : Prog σ Fault α) := by
  apply Raises.lift
  intro e fault
  cases x with
  | some a => cases fault
  | none =>
      cases fault
      decide

end Loads

theorem inject_inBounds {heap : Heap} {endpoint : Endpoint} {packet : Packet}
    (bytes : packet.bytes ≠ .error .outOfBounds) :
    inject heap endpoint packet ≠ .error .outOfBounds := by
  intro run
  unfold inject at run
  split at run
  · cases run
  · rename_i msg _
    cases source : packet.bytes with
    | error fault =>
        rw [source] at run
        cases run
        exact bytes source
    | ok data =>
        rw [source, except_ok_bind] at run
        cases filled : fillMessage msg data with
        | ok message =>
            rw [filled] at run
            cases run
        | error fault =>
            rw [filled] at run
            cases run
            unfold fillMessage at filled
            split at filled
            · cases filled
            · cases filled

theorem inBounds_injectBulkIn {packet : Packet} (bytes : packet.bytes ≠ .error .outOfBounds) :
    InBounds (injectBulkIn packet) := by
  refine Raises.bind Raises.get fun p => Raises.bind (Raises.lift ?_) fun done => ?_
  · intro e fault same
    rw [same] at fault
    exact inject_inBounds bytes fault
  · exact Raises.bind (Raises.modify _) fun _ => Raises.pure _

theorem inBounds_injectL2capPacket (handle dcid : UInt16) (data : List UInt8) :
    InBounds (injectL2capPacket handle dcid data) :=
  inBounds_injectBulkIn nofun

theorem inBounds_injectL2capDisconnectRsp (handle : UInt16) (ident : UInt8) (dcid scid : UInt16) :
    InBounds (injectL2capDisconnectRsp handle ident dcid scid) :=
  inBounds_injectBulkIn nofun

theorem inBounds_injectL2capConfigRsp {handle remoteCid size : UInt16} {ident : UInt8}
    {options : List UInt8} (inside : size.toNat ≤ options.length) :
    InBounds (injectL2capConfigRsp handle remoteCid ident options size) := by
  obtain ⟨copied, loaded⟩ := loadBytes_readable.mpr (show 0 + size.toNat ≤ options.length by omega)
  apply inBounds_injectBulkIn
  simp only [l2capCmdMsg, l2capMsg, hciAclMsg, loaded, except_ok_bind]
  nofun

theorem inBounds_injectHciEvent (event eventSize : UInt8) (fields : List UInt8) :
    InBounds (injectHciEvent event eventSize fields) := by
  refine Raises.bind Raises.get fun s => Raises.bind (Raises.lift ?_) fun done => ?_
  · intro e fault same
    rw [same] at fault
    refine inject_inBounds ?_ fault
    intro source
    cases source
  · exact Raises.bind (Raises.modify _) fun _ => Raises.pure _

theorem inBounds_assertThat (condition : Prop) [Decidable condition] (failed : Assertion) :
    InBounds (assertThat condition failed) :=
  Raises.ite (Raises.pure ()) (Raises.throw nofun)

theorem inBounds_getSession (w : WiimoteId) : InBounds (getSession w) :=
  Raises.bind Raises.get fun _ => Raises.pure _

theorem inBounds_modifySession (w : WiimoteId) (f : Session → Session) :
    InBounds (modifySession w f) :=
  Raises.modify _

theorem inBounds_callEgc (call : EgcCall) : InBounds (callEgc call) := Raises.modify _

theorem inBounds_onDevice {α : Type} {w : WiimoteId} {body : Device → P α}
    (inBounds : ∀ dev : Device, dev.self = w → InBounds (body dev)) : InBounds (onDevice w body) := by
  intro s e run
  have zoomed : zoom World.periphery (fun s p => { s with periphery := p }) (body ⟨s.core, w⟩) s =
      .error e := run
  exact Raises.zoom (inBounds ⟨s.core, w⟩ rfl) s e zoomed

theorem inBounds_fakeWiimoteDisconnect (w : WiimoteId) : InBounds (fakeWiimoteDisconnect w) := by
  have link : InBounds (getLink w) := Raises.bind Raises.get fun _ => Raises.pure _
  have release (d : Option SlotId) : InBounds (releaseInputDevice d) := by
    cases d with
    | none => exact Raises.pure ()
    | some d =>
        refine Raises.bind (Raises.modify _) fun _ => ?_
        intro s e run
        exact Raises.zoom (inBounds_callEgc (.suspend (s.core.slots d).device)) s e run
  refine Raises.bind (Raises.modify _) fun _ => Raises.bind link fun link => ?_
  refine Raises.bind (release _) fun _ => Raises.ite ?_ (Raises.pure _)
  exact inBounds_injectHciEvent _ _ _

namespace Device

variable (dev : Device)

theorem inBounds_channelOrFault (localCid : UInt16) : InBounds (dev.channelOrFault localCid) := by
  refine Raises.bind (inBounds_getSession _) fun wiimote => Raises.lift ?_
  intro e fault
  rw [orFault_error fault]
  decide

theorem inBounds_handleConnectRsp (dcid scid status : UInt16) :
    InBounds (dev.handleConnectRsp dcid scid status) :=
  Raises.bind (inBounds_assertThat _ _) fun _ =>
    Raises.bind (dev.inBounds_channelOrFault _) fun _ => inBounds_modifySession _ _

theorem inBounds_handleConfigRsp (scid result : UInt16) :
    InBounds (dev.handleConfigRsp scid result) :=
  Raises.bind (inBounds_assertThat _ _) fun _ =>
    Raises.bind (dev.inBounds_channelOrFault _) fun _ => inBounds_modifySession _ _

theorem inBounds_handleDisconnectReq (ident : UInt8) (dcid scid : UInt16) :
    InBounds (dev.handleDisconnectReq ident dcid scid) :=
  Raises.bind (dev.inBounds_channelOrFault _) fun _ =>
    Raises.bind (inBounds_modifySession _ _) fun _ =>
    Raises.bind (inBounds_injectL2capDisconnectRsp _ _ _ _) fun _ => Raises.pure ()

theorem inBounds_sendHidInputReport (reportId : UInt8) (data : List UInt8) :
    InBounds (dev.sendHidInputReport reportId data) :=
  Raises.bind (inBounds_getSession _) fun _ => Raises.bind (inBounds_assertThat _ _) fun _ =>
    Raises.bind (inBounds_assertThat _ _) fun _ => inBounds_injectL2capPacket _ _ _

theorem inBounds_wiimoteSendAck (rptId errorCode : UInt8) :
    InBounds (dev.wiimoteSendAck rptId errorCode) :=
  Raises.bind (inBounds_getSession _) fun _ => dev.inBounds_sendHidInputReport _ _

theorem inBounds_wiimoteSendInputReportStatus : InBounds dev.wiimoteSendInputReportStatus := by
  have stack : InBounds (stackBytes 2) :=
    Raises.bind Raises.get fun _ => Raises.bind (Raises.modify _) fun _ => Raises.pure _
  exact Raises.bind (inBounds_getSession _) fun _ => Raises.bind stack fun _ =>
    dev.inBounds_sendHidInputReport _ _

theorem inBounds_fakeWiimoteProcessReadRequest : InBounds dev.fakeWiimoteProcessReadRequest :=
  Raises.bind Raises.get fun _ => Raises.ite (Raises.pure _) <|
    Raises.bind (inBounds_modifySession _ _) fun _ =>
    Raises.bind (dev.inBounds_sendHidInputReport _ _) fun _ => Raises.pure _

theorem inBounds_fakeWiimoteUpdateRumble (rumbleOn : Bool) :
    InBounds (dev.fakeWiimoteUpdateRumble rumbleOn) :=
  Raises.bind (inBounds_getSession _) fun _ => Raises.when <|
    Raises.bind (inBounds_modifySession _ _) fun _ =>
    Raises.bind (inBounds_deref _) fun _ => inBounds_callEgc _

theorem inBounds_ackReport (flags rptId : UInt8) : InBounds (dev.ackReport flags rptId) :=
  Raises.when (Raises.bind (dev.inBounds_wiimoteSendAck _ _) fun _ => Raises.pure ())

theorem inBounds_inputDeviceSetLeds (core : Core) (inputDevice : Option SlotId) (leds : UInt8) :
    InBounds (inputDeviceSetLeds core inputDevice leds) :=
  Raises.bind (inBounds_deref _) fun _ => inBounds_callEgc _

end Device

end Fakemote
