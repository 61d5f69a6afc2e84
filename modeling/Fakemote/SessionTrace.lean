import Fakemote.SessionDeeds

/-! The tick of the session code in deeds of the abstract machine: one lemma for each function. -/

namespace Fakemote

open Bytes Program Labelled

namespace Device.Performs

variable {dev : Device} {p q r : Periphery} {first second : List Deed}

theorem still (platform : q.platform = p.platform) (air : q.air = p.air) : dev.Performs p [] q :=
  ⟨platform, air⟩

theorem refl (p : Periphery) : dev.Performs p [] p := still rfl rfl

theorem single {deed : Deed} (enabled : Air.Enabled dev p.air deed)
    (platform : q.platform = p.platform) (air : q.air = p.air.act p.platform dev deed) :
    dev.Performs p [deed] q :=
  ⟨platform, enabled, air⟩

theorem append (one : dev.Performs p first q) (two : dev.Performs q second r) :
    dev.Performs p (first ++ second) r := by
  refine ⟨two.platform.trans one.platform, one.path.append ?_⟩
  have rest := two.path
  rw [one.platform] at rest
  exact rest

theorem after (platform : q.platform = p.platform) (air : q.air = p.air)
    (rest : dev.Performs q second r) : dev.Performs p second r :=
  append (still platform air) rest

theorem produced (performed : dev.Performs p first q) :
    q.bulkIn.produced =
      p.bulkIn.produced ++ emitted (Air.act p.platform dev) (Air.emits p.platform dev) p.air first :=
  performed.path.log Air.produced fun _ _ => rfl

theorem egcCalls (performed : dev.Performs p first q) :
    q.egcCalls = p.egcCalls ++
      emitted (Air.act p.platform dev) (fun _ deed => deed.egcCalls dev) p.air first :=
  performed.path.log Air.egcCalls fun _ _ => rfl

end Device.Performs

namespace Air

def change (a : Air) (w : WiimoteId) (wiimote : Session) : Air :=
  { a with sessions := Function.update a.sessions w wiimote }

def sent (a : Air) (bytes : List UInt8) (placed : Bool) : Air :=
  { a with
    allocations := a.allocations + 1
    produced := a.produced ++ if placed then [⟨bytes.length, bytes⟩] else [] }

def called (a : Air) (call : EgcCall) : Air := { a with egcCalls := a.egcCalls ++ [call] }

theorem act_silent {egc : Platform} {dev : Device} {a : Air} {deed : Deed}
    (silent : deed.packet egc dev.conHandle (a.sessions (deed.target dev.self)) = none)
    (extensions : deed.extensions a.extensions = a.extensions)
    (startingId : deed.startingId a.startingId = a.startingId)
    (calls : deed.egcCalls dev = []) :
    a.act egc dev deed =
      a.change (deed.target dev.self) (deed.session egc (a.sessions (deed.target dev.self))) := by
  simp [act, change, silent, extensions, startingId, calls]

theorem act_sends {egc : Platform} {dev : Device} {a : Air} {deed : Deed} {bytes : List UInt8}
    (packet : deed.packet egc dev.conHandle (a.sessions (deed.target dev.self)) = some bytes)
    (extensions : deed.extensions a.extensions = a.extensions)
    (startingId : deed.startingId a.startingId = a.startingId)
    (calls : deed.egcCalls dev = []) :
    a.act egc dev deed =
      (a.change (deed.target dev.self)
        (deed.session egc (a.sessions (deed.target dev.self)))).sent bytes deed.placed := by
  simp [act, change, sent, packet, extensions, startingId, calls]

theorem act_calls {egc : Platform} {dev : Device} {a : Air} {deed : Deed} {call : EgcCall}
    (silent : deed.packet egc dev.conHandle (a.sessions (deed.target dev.self)) = none)
    (extensions : deed.extensions a.extensions = a.extensions)
    (startingId : deed.startingId a.startingId = a.startingId)
    (calls : deed.egcCalls dev = [call]) :
    a.act egc dev deed =
      (a.change (deed.target dev.self)
        (deed.session egc (a.sessions (deed.target dev.self)))).called call := by
  simp [act, change, called, silent, extensions, startingId, calls]

@[simp] theorem change_self (a : Air) (w : WiimoteId) : a.change w (a.sessions w) = a := by
  simp [change]

@[simp] theorem change_sessions (a : Air) (w : WiimoteId) (wiimote : Session) :
    (a.change w wiimote).sessions w = wiimote :=
  Function.update_self _ _ _

@[simp] theorem change_change (a : Air) (w : WiimoteId) (first second : Session) :
    (a.change w first).change w second = a.change w second := by
  simp [change]

theorem change_sent (a : Air) (w : WiimoteId) (wiimote : Session) (bytes : List UInt8)
    (placed : Bool) : (a.sent bytes placed).change w wiimote = (a.change w wiimote).sent bytes placed :=
  rfl

end Air

theorem modifySession_air {p q : Periphery} {w : WiimoteId} {f : Session → Session} {u : Unit}
    (run : modifySession w f p = .ok (u, q)) :
    q.platform = p.platform ∧ q.air = p.air.change w (f (p.sessions w)) := by
  cases run
  exact ⟨rfl, rfl⟩

theorem callEgc_air {p q : Periphery} {call : EgcCall} {u : Unit}
    (run : callEgc call p = .ok (u, q)) :
    q.platform = p.platform ∧ q.air = p.air.called call := by
  cases run
  exact ⟨rfl, rfl⟩

theorem getSession_ok {p q : Periphery} {w : WiimoteId} {wiimote : Session}
    (run : getSession w p = .ok (wiimote, q)) : wiimote = p.sessions w ∧ p = q := by
  cases run
  exact ⟨rfl, rfl⟩

theorem assertThat_ok {condition : Prop} [Decidable condition] {failed : Assertion}
    {p q : Periphery} {u : Unit} (run : assertThat condition failed p = .ok (u, q)) :
    condition ∧ p = q := by
  unfold assertThat at run
  split at run
  · rename_i holds
    cases run
    exact ⟨holds, rfl⟩
  · cases run

theorem stackBytes_air {p q : Periphery} {count : Nat} {bytes : List UInt8}
    (run : stackBytes count p = .ok (bytes, q)) :
    bytes.length = count ∧ q.platform = p.platform ∧ q.air = p.air := by
  cases run
  exact ⟨by simp, rfl, rfl⟩

theorem injectBulkIn_air {p q : Periphery} {packet : Packet} {bytes : List UInt8} {ret : IosResult}
    (fills : ∀ data, packet.bytes = .ok data → data.length ≤ packet.size.toNat →
      data = bytes ∧ packet.size.toNat = bytes.length)
    (run : injectBulkIn packet p = .ok (ret, q)) :
    q.platform = p.platform ∧ q.air = p.air.sent bytes (ret = .iosOk) := by
  obtain ⟨_, _, got, run⟩ := bind_ok.mp run
  cases got
  obtain ⟨done, _, first, run⟩ := bind_ok.mp run
  obtain ⟨injected, rfl⟩ := lift_ok.mp first
  cases run
  refine ⟨rfl, ?_⟩
  have calls : done.heap.calls = p.heap.calls + 1 := by
    rcases inject_cases injected with ⟨-, rfl⟩ | ⟨_, _, _, -, -, -, rfl⟩ <;> rfl
  have produced : done.endpoint.produced =
      p.bulkIn.produced ++ if done.ret = .iosOk then [⟨bytes.length, bytes⟩] else [] := by
    rcases inject_produced injected with ⟨failed, same⟩ | ⟨ok, same, data, rest, source, held, size⟩
    · rw [same, if_neg failed, List.append_nil]
    · obtain ⟨rfl, exactly⟩ := fills data source (by omega)
      have none : rest = [] := List.eq_nil_of_length_eq_zero (by omega)
      rw [same, if_pos ok, held, none, List.append_nil]
  simp only [Periphery.air, Air.sent, calls, produced, decide_eq_true_eq]

theorem injectFilled_air {p q : Periphery} {packet : Packet} {bytes : List UInt8} {ret : IosResult}
    (fills : packet.Fills bytes) (run : injectBulkIn packet p = .ok (ret, q)) :
    q.platform = p.platform ∧ q.air = p.air.sent bytes (ret = .iosOk) := by
  apply injectBulkIn_air _ run
  intro data source _
  rw [fills.writes] at source
  cases source
  exact ⟨rfl, fills.size⟩
theorem loadBytes_length {buffer data : List UInt8} {offset count : Nat}
    (loaded : loadBytes buffer offset count = .ok data) : data.length = count := by
  have found := orFault_ok.mp loaded
  unfold Bytes.loadBytes at found
  split at found
  · cases found
    rw [List.length_take, List.length_drop]
    omega
  · cases found

theorem loadBytes_take {buffer data : List UInt8} {count : Nat}
    (loaded : loadBytes buffer 0 count = .ok data) : data = buffer.take count := by
  have found := orFault_ok.mp loaded
  unfold Bytes.loadBytes at found
  split at found
  · cases found
    rw [List.drop_zero]
  · cases found

namespace Device

variable {dev : Device} {p q : Periphery}

theorem sendHidInputReport_air {reportId : UInt8} {data : List UInt8} {ret : IosResult}
    (run : dev.sendHidInputReport reportId data p = .ok (ret, q)) :
    q.platform = p.platform ∧
      q.air = p.air.sent (inputReportPacket dev.conHandle (p.sessions dev.self) reportId data)
        (ret = .iosOk) := by
  obtain ⟨wiimote, _, got, run⟩ := bind_ok.mp run
  obtain ⟨rfl, rfl⟩ := getSession_ok got
  obtain ⟨_, _, bounded, run⟩ := bind_ok.mp run
  obtain ⟨short, rfl⟩ := assertThat_ok bounded
  obtain ⟨_, _, again, run⟩ := bind_ok.mp run
  obtain ⟨-, rfl⟩ := assertThat_ok again
  apply injectFilled_air (fills_l2capMsg _) run
  simp only [List.length_cons, wiimoteMaxPayload] at short ⊢
  omega

theorem wiimoteSendAck_air {rptId errorCode : UInt8} {ret : IosResult}
    (run : dev.wiimoteSendAck rptId errorCode p = .ok (ret, q)) :
    q.platform = p.platform ∧
      q.air = p.air.sent (ackPacket dev.conHandle (p.sessions dev.self) rptId errorCode)
        (ret = .iosOk) := by
  obtain ⟨wiimote, _, got, run⟩ := bind_ok.mp run
  obtain ⟨rfl, rfl⟩ := getSession_ok got
  exact sendHidInputReport_air run

theorem wiimoteSendInputReportStatus_air {ret : IosResult}
    (run : dev.wiimoteSendInputReportStatus p = .ok (ret, q)) :
    ∃ padding, padding.length = 2 ∧ q.platform = p.platform ∧
      q.air = p.air.sent (statusPacket dev.conHandle (p.sessions dev.self) padding)
        (ret = .iosOk) := by
  obtain ⟨wiimote, _, got, run⟩ := bind_ok.mp run
  obtain ⟨rfl, rfl⟩ := getSession_ok got
  obtain ⟨padding, p1, read, run⟩ := bind_ok.mp run
  obtain ⟨length, platform, air⟩ := stackBytes_air read
  obtain ⟨kept, sent⟩ := sendHidInputReport_air run
  refine ⟨padding, length, kept.trans platform, ?_⟩
  have sessions : p1.sessions = p.sessions := congrArg Air.sessions air
  rw [sent, air, sessions]
  rfl

theorem wiimoteSendAck_performs {rptId errorCode : UInt8} {ret : IosResult}
    (run : dev.wiimoteSendAck rptId errorCode p = .ok (ret, q)) :
    ∃ placed, dev.Performs p [.ack rptId errorCode placed] q := by
  obtain ⟨platform, air⟩ := wiimoteSendAck_air run
  refine ⟨decide (ret = .iosOk), .single trivial platform ?_⟩
  rw [air, Air.act_sends rfl rfl rfl rfl]
  exact congrArg (Air.sent · _ _) (p.air.change_self dev.self).symm

theorem wiimoteSendInputReportStatus_performs {ret : IosResult}
    (run : dev.wiimoteSendInputReportStatus p = .ok (ret, q)) :
    ∃ padding placed, padding.length = 2 ∧ dev.Performs p [.status padding placed] q := by
  obtain ⟨padding, length, platform, air⟩ := wiimoteSendInputReportStatus_air run
  refine ⟨padding, decide (ret = .iosOk), length, .single trivial platform ?_⟩
  rw [air, Air.act_sends rfl rfl rfl rfl]
  exact congrArg (Air.sent · _ _) (p.air.change_self dev.self).symm

theorem extensionReadData_session {memory : Nat → UInt8} {wiimote after : Session}
    {address size : Nat} {data : List UInt8}
    (read : wiimote.extensionReadData memory address size = some (after, data)) :
    ∃ key dirty, after = { wiimote with extensionKey := key, extensionKeyDirty := dirty } := by
  unfold Session.extensionReadData at read
  dsimp only at read
  split at read
  · cases read
  · split at read
    · cases read
      split
      · exact ⟨_, _, rfl⟩
      · exact ⟨wiimote.extensionKey, wiimote.extensionKeyDirty, rfl⟩
    · cases read
      exact ⟨wiimote.extensionKey, wiimote.extensionKeyDirty, rfl⟩

theorem readMemory_session (memory : Nat → UInt8) (wiimote : Session) (size : Nat) :
    ∃ key dirty, (readMemory memory wiimote size).2.1 =
      { wiimote with extensionKey := key, extensionKeyDirty := dirty } := by
  have same : ∃ key dirty, wiimote =
      { wiimote with extensionKey := key, extensionKeyDirty := dirty } :=
    ⟨wiimote.extensionKey, wiimote.extensionKeyDirty, rfl⟩
  unfold readMemory
  dsimp only
  split
  · split
    · exact same
    · exact same
  · split
    · split
      · exact same
      · split
        · split
          · rename_i after data read
            exact extensionReadData_session read
          · exact same
        · split
          · split
            · exact same
            · exact same
          · exact same
    · exact same

theorem readMemory_buttons (memory : Nat → UInt8) (wiimote : Session) (size : Nat) :
    (readMemory memory wiimote size).2.1.buttons = wiimote.buttons := by
  obtain ⟨key, dirty, same⟩ := readMemory_session memory wiimote size
  rw [same]

theorem readMemory_psmHidIntrChn (memory : Nat → UInt8) (wiimote : Session) (size : Nat) :
    (readMemory memory wiimote size).2.1.psmHidIntrChn = wiimote.psmHidIntrChn := by
  obtain ⟨key, dirty, same⟩ := readMemory_session memory wiimote size
  rw [same]

theorem afterChunk_of_read {memory : Nat → UInt8} {wiimote after : Session} {error : UInt8}
    {data : List UInt8}
    (reading : readMemory memory wiimote wiimote.readSize = (error, after, data)) :
    wiimote.afterChunk memory =
      { after with
        readRequest :=
          if error ≠ errorCodeSuccess then { after.readRequest with size := 0 }
          else
            { after.readRequest with
              address := after.readRequest.address + UInt16.ofNat wiimote.readSize
              size := after.readRequest.size - UInt16.ofNat wiimote.readSize } } := by
  unfold Session.afterChunk
  rw [reading]

theorem chunkBody_of_read {memory : Nat → UInt8} {wiimote after : Session} {error : UInt8}
    {data : List UInt8}
    (reading : readMemory memory wiimote wiimote.readSize = (error, after, data)) :
    wiimote.chunkBody memory =
      bytes16 wiimote.buttons ++
        [(UInt8.ofNat ((if error ≠ errorCodeSuccess then 16 else wiimote.readSize) - 1) <<<
          (4 : UInt8)) ||| error] ++
        bytes16 wiimote.readRequest.address ++ data ++ List.replicate (16 - data.length) 0 := by
  unfold Session.chunkBody
  rw [reading]

theorem fakeWiimoteProcessReadRequest_performs {done : Bool}
    (run : dev.fakeWiimoteProcessReadRequest p = .ok (done, q)) :
    (done = false ∧ (p.sessions dev.self).readRequest.size = 0 ∧ p = q) ∨
      (done = true ∧ ∃ placed, dev.Performs p [.chunk placed] q) := by
  obtain ⟨_, _, got, run⟩ := bind_ok.mp run
  cases got
  split at run
  · rename_i empty
    cases run
    refine Or.inl ⟨rfl, ?_, rfl⟩
    apply UInt16.toNat_inj.mp
    rw [show (0 : UInt16).toNat = 0 from rfl]
    omega
  · rename_i pending
    rcases reading : readMemory p.platform.memory (p.sessions dev.self)
      (min 16 (p.sessions dev.self).readRequest.size.toNat) with ⟨error, after, data⟩
    have buttons := readMemory_buttons p.platform.memory (p.sessions dev.self)
      (min 16 (p.sessions dev.self).readRequest.size.toNat)
    have channel := readMemory_psmHidIntrChn p.platform.memory (p.sessions dev.self)
      (min 16 (p.sessions dev.self).readRequest.size.toNat)
    rw [reading] at run buttons channel
    dsimp only at run buttons channel
    obtain ⟨_, p1, stored, run⟩ := bind_ok.mp run
    obtain ⟨platform, air⟩ := modifySession_air stored
    obtain ⟨ret, p2, reply, run⟩ := bind_ok.mp run
    obtain ⟨kept, sent⟩ := sendHidInputReport_air reply
    cases run
    refine Or.inr ⟨rfl, decide (ret = .iosOk), .single ?_ (kept.trans platform) ?_⟩
    · intro empty
      apply pending
      have zero : (p.sessions dev.self).readRequest.size = 0 := empty
      rw [zero]
      rfl
    · have moved : p1.air =
          p.air.change dev.self ((p.sessions dev.self).afterChunk p.platform.memory) := by
        rw [afterChunk_of_read reading]
        exact air
      have session : p1.sessions dev.self = (p.sessions dev.self).afterChunk p.platform.memory := by
        have same := congrArg (fun a : Air => a.sessions dev.self) moved
        simp only [Air.change_sessions] at same
        exact same
      have body := chunkBody_of_read reading
      rw [← buttons] at body
      have packet : inputReportPacket dev.conHandle (p1.sessions dev.self)
          inputReportIdReadDataReply ((p.sessions dev.self).chunkBody p.platform.memory) =
          inputReportPacket dev.conHandle (p.sessions dev.self)
          inputReportIdReadDataReply ((p.sessions dev.self).chunkBody p.platform.memory) := by
        unfold inputReportPacket
        rw [session, afterChunk_of_read reading, channel]
      rw [Air.act_sends rfl rfl rfl rfl]
      calc
        _ = p1.air.sent (inputReportPacket dev.conHandle (p1.sessions dev.self)
            inputReportIdReadDataReply ((p.sessions dev.self).chunkBody p.platform.memory))
            (decide (ret = .iosOk)) := by
          rw [body]
          exact sent
        _ = _ := by
          rw [packet, moved]
          rfl

theorem writeMemory_session (wiimote : Session) (write : WriteRequest) :
    ∃ irRegs extensionRegs dirty eeprom, (writeMemory wiimote write).2 =
      { wiimote with
        irRegs := irRegs
        extensionRegs := extensionRegs
        extensionKeyDirty := dirty
        eeprom := eeprom } := by
  have same : ∃ irRegs extensionRegs dirty eeprom, wiimote =
      { wiimote with
        irRegs := irRegs
        extensionRegs := extensionRegs
        extensionKeyDirty := dirty
        eeprom := eeprom } :=
    ⟨wiimote.irRegs, wiimote.extensionRegs, wiimote.extensionKeyDirty, wiimote.eeprom, rfl⟩
  unfold writeMemory
  dsimp only
  split
  · split
    · exact same
    · exact ⟨wiimote.irRegs, wiimote.extensionRegs, wiimote.extensionKeyDirty, _, rfl⟩
  · split
    · split
      · exact same
      · split
        · unfold Session.extensionWriteData
          dsimp only
          split
          · rename_i after stored
            split at stored
            · cases stored
            · cases stored
              exact ⟨wiimote.irRegs, _, _, wiimote.eeprom, rfl⟩
          · exact same
        · split
          · unfold Session.irCameraWriteData
            split
            · rename_i after stored
              split at stored
              · cases stored
              · cases stored
                exact ⟨_, wiimote.extensionRegs, wiimote.extensionKeyDirty, wiimote.eeprom, rfl⟩
            · exact same
          · exact same
    · exact same

theorem writeData_length {report data : List UInt8} {stored : Bool} {size : Nat}
    (read : writeData report stored size = .ok data) : data.length = size := by
  unfold writeData at read
  split at read
  · exact loadBytes_length read
  · cases read
    exact List.length_replicate

theorem fakeWiimoteProcessWriteRequest_performs {report : List UInt8} {u : Unit}
    (run : dev.fakeWiimoteProcessWriteRequest report p = .ok (u, q)) :
    dev.Performs p [] q ∨ ∃ data placed, dev.Performs p [.write data placed] q := by
  obtain ⟨size, _, first, run⟩ := bind_ok.mp run
  obtain ⟨-, rfl⟩ := lift_ok.mp first
  split at run
  · cases run
    exact Or.inl (.refl p)
  · rename_i bounded
    obtain ⟨flags, _, second, run⟩ := bind_ok.mp run
    obtain ⟨-, rfl⟩ := lift_ok.mp second
    obtain ⟨slave, _, third, run⟩ := bind_ok.mp run
    obtain ⟨-, rfl⟩ := lift_ok.mp third
    obtain ⟨address, _, fourth, run⟩ := bind_ok.mp run
    obtain ⟨-, rfl⟩ := lift_ok.mp fourth
    obtain ⟨data, _, fifth, run⟩ := bind_ok.mp run
    obtain ⟨loaded, rfl⟩ := lift_ok.mp fifth
    obtain ⟨wiimote, _, got, run⟩ := bind_ok.mp run
    obtain ⟨rfl, rfl⟩ := getSession_ok got
    have short : data.length ≤ 16 := by
      have length := writeData_length loaded
      omega
    let write : WriteRequest :=
      ⟨(flags >>> (2 : UInt8)) &&& (3 : UInt8), slave >>> (1 : UInt8), address, data⟩
    rcases writing : writeMemory (p.sessions dev.self) write with ⟨error, after⟩
    obtain ⟨irRegs, extensionRegs, dirty, eeprom, kept⟩ :=
      writeMemory_session (p.sessions dev.self) write
    rw [writing] at run kept
    dsimp only at run kept
    obtain ⟨_, p1, stored, run⟩ := bind_ok.mp run
    obtain ⟨platform, air⟩ := modifySession_air stored
    obtain ⟨ret, p2, reply, run⟩ := bind_ok.mp run
    obtain ⟨still, sent⟩ := wiimoteSendAck_air reply
    cases run
    refine Or.inr ⟨write, decide (ret = .iosOk), .single short (still.trans platform) ?_⟩
    have session : p1.sessions dev.self = after := by
      have same := congrArg (fun a : Air => a.sessions dev.self) air
      simp only [Air.change_sessions] at same
      exact same
    have packet : ackPacket dev.conHandle (p1.sessions dev.self) outputReportIdWriteData error =
        ackPacket dev.conHandle (p.sessions dev.self) outputReportIdWriteData error := by
      rw [session, kept]
      rfl
    rw [sent, air, packet, Air.act_sends rfl rfl rfl rfl]
    simp only [Deed.target, Deed.session, Deed.placed, Periphery.air, writing]

theorem fakeWiimoteProcessExtensionChange_performs {changed : Bool}
    (run : dev.fakeWiimoteProcessExtensionChange p = .ok (changed, q)) :
    (changed = false ∧ (p.sessions dev.self).newExtension = (p.sessions dev.self).curExtension ∧
        p = q) ∨
      (changed = true ∧ ∃ padding placed, padding.length = 2 ∧
        dev.Performs p [.change padding placed] q) := by
  obtain ⟨wiimote, _, got, run⟩ := bind_ok.mp run
  obtain ⟨rfl, rfl⟩ := getSession_ok got
  split at run
  · rename_i same
    cases run
    exact Or.inl ⟨rfl, same, rfl⟩
  · rename_i different
    obtain ⟨_, p1, stored, run⟩ := bind_ok.mp run
    obtain ⟨platform, air⟩ := modifySession_air stored
    obtain ⟨ret, p2, status, run⟩ := bind_ok.mp run
    obtain ⟨padding, length, kept, sent⟩ := wiimoteSendInputReportStatus_air status
    cases run
    refine Or.inr ⟨rfl, padding, decide (ret = .iosOk), length,
      .single different (kept.trans platform) ?_⟩
    have session : p1.sessions dev.self = (p.sessions dev.self).afterChange := by
      have same := congrArg (fun a : Air => a.sessions dev.self) air
      simp only [Air.change_sessions] at same
      exact same
    rw [sent, air, Air.act_sends rfl rfl rfl rfl, session]
    rfl

/-- The buffer holds `bytes` from `base` on. -/
def Holds (buffer : List UInt8) (base : Nat) (bytes : List UInt8) : Prop :=
  (buffer.drop base).take bytes.length = bytes

theorem holds_store {buffer result before bytes : List UInt8} {base offset : Nat}
    (stored : storeBytes buffer offset bytes = .ok result) (holds : Holds buffer base before)
    (next : bytes = [] ∨ offset = base + before.length) : Holds result base (before ++ bytes) := by
  have found := orFault_ok.mp stored
  unfold Bytes.storeBytes at found
  split at found
  · rename_i room
    rcases next with rfl | rfl
    · have same : result = buffer := by
        cases found
        simp
      rw [same, List.append_nil]
      exact holds
    · cases found
      unfold Holds at holds ⊢
      have length : (buffer.take (base + before.length)).length = base + before.length := by
        rw [List.length_take]
        omega
      rw [List.append_assoc, List.drop_append_of_le_length (by omega), List.drop_take,
        Nat.add_sub_cancel_left, holds, List.length_append, List.take_append, List.take_append]
      simp only [Nat.add_sub_cancel_left, List.take_length, Nat.sub_self, List.take_zero,
        List.append_nil]
      rw [List.take_of_length_le (Nat.le_add_right _ _)]
  · cases found

theorem holds_nil (buffer : List UInt8) (base : Nat) : Holds buffer base [] := by
  simp [Holds]

theorem take_store {buffer result bytes held : List UInt8}
    (stored : storeBytes buffer 0 bytes = .ok result) (holds : Holds buffer bytes.length held) :
    result.take (bytes.length + held.length) = bytes ++ held := by
  have found := orFault_ok.mp stored
  unfold Bytes.storeBytes at found
  split at found
  · cases found
    unfold Holds at holds
    simp only [List.take_zero, List.nil_append, Nat.zero_add]
    rw [List.take_append, List.take_of_length_le (Nat.le_add_right _ _), Nat.add_sub_cancel_left,
      holds]
  · cases found

/-- The parts of a report follow each other. -/
theorem inputReport_layout (mode : UInt8) :
    (inputReportAccSize mode = 0 ∨
      inputReportAccSize mode = 3 ∧
        inputReportAccOffset mode = if inputReportHasBtn mode then 2 else 0) ∧
    (inputReportIrSize mode = 0 ∨
      inputReportIrOffset mode =
        (if inputReportHasBtn mode then 2 else 0) + inputReportAccSize mode) ∧
    (inputReportExtSize mode = 0 ∨
      inputReportExtOffset mode =
        (if inputReportHasBtn mode then 2 else 0) +
          (inputReportAccSize mode + inputReportIrSize mode)) ∧
    inputReportExtSize mode ≤ 21 := by
  by_cases listed : mode ∈ [inputReportIdBtnAcc, inputReportIdBtnExp8, inputReportIdBtnAccIr,
    inputReportIdBtnExp19, inputReportIdBtnAccExp, inputReportIdBtnIrExp, inputReportIdBtnAccIrExp,
    inputReportIdExp21]
  · simp only [List.mem_cons, List.not_mem_nil, or_false] at listed
    rcases listed with rfl | rfl | rfl | rfl | rfl | rfl | rfl | rfl <;> decide
  · simp only [List.mem_cons, List.not_mem_nil, or_false, not_or] at listed
    obtain ⟨h1, h2, h3, h4, h5, h6, h7, h8⟩ := listed
    simp [inputReportAccSize, inputReportIrSize, inputReportExtSize, h1, h2, h3, h4, h5, h6, h7, h8]

theorem extensionBytes_air {bytes : List UInt8}
    (run : dev.extensionBytes (inputReportExtSize (p.sessions dev.self).reportingMode) p =
      .ok (bytes, q)) :
    bytes = ((p.sessions dev.self).extensionReport p.platform.memory).2 ∧
      q.platform = p.platform ∧
      q.air = p.air.change dev.self
        ((p.sessions dev.self).extensionReport p.platform.memory).1 := by
  obtain ⟨_, _, got, run⟩ := bind_ok.mp run
  cases got
  unfold Session.extensionReport
  dsimp only
  split at run
  · rename_i empty
    cases run
    rw [if_pos empty]
    exact ⟨rfl, rfl, (Air.change_self _ _).symm⟩
  · rename_i some
    rw [if_neg some]
    rcases read : (p.sessions dev.self).extensionReadData p.platform.memory 0
      (inputReportExtSize (p.sessions dev.self).reportingMode) with _ | ⟨wiimote, data⟩
    · rw [read] at run
      cases run
      exact ⟨rfl, rfl, (Air.change_self _ _).symm⟩
    · rw [read] at run
      obtain ⟨_, p1, stored, run⟩ := bind_ok.mp run
      cases run
      exact ⟨rfl, modifySession_air stored⟩

theorem extensionReadData_length {memory : Nat → UInt8} {wiimote after : Session}
    {address size : Nat} {data : List UInt8}
    (read : wiimote.extensionReadData memory address size = some (after, data)) :
    data.length = size := by
  unfold Session.extensionReadData at read
  dsimp only at read
  split at read
  · cases read
  · split at read
    · cases read
      simp [wiimoteCryptoEncrypt, Registers.read]
    · cases read
      simp [Registers.read]

theorem extensionReport_session (memory : Nat → UInt8) (wiimote : Session) :
    ∃ key dirty, (wiimote.extensionReport memory).1 =
      { wiimote with extensionKey := key, extensionKeyDirty := dirty } := by
  unfold Session.extensionReport
  dsimp only
  split
  · exact ⟨wiimote.extensionKey, wiimote.extensionKeyDirty, rfl⟩
  · rcases read : wiimote.extensionReadData memory 0 (inputReportExtSize wiimote.reportingMode) with
      _ | ⟨after, data⟩
    · exact ⟨wiimote.extensionKey, wiimote.extensionKeyDirty, rfl⟩
    · exact extensionReadData_session read

theorem extensionReport_length (memory : Nat → UInt8) (wiimote : Session) :
    (wiimote.extensionReport memory).2.length = inputReportExtSize wiimote.reportingMode := by
  have small := (inputReport_layout wiimote.reportingMode).2.2.2
  unfold Session.extensionReport
  dsimp only
  split
  · rename_i empty
    rw [empty]
    rfl
  · rcases read : wiimote.extensionReadData memory 0 (inputReportExtSize wiimote.reportingMode) with
      _ | ⟨after, data⟩
    · unfold Session.extensionReadData at read
      rw [if_neg (by rw [extensionRegsSize]; omega)] at read
      dsimp only at read
      split at read <;> cases read
    · exact extensionReadData_length read

theorem report_take {mode : UInt8} {report acc ir ext btn accBytes irBytes extBytes btnBytes : List UInt8}
    (accLength : accBytes.length = inputReportAccSize mode)
    (irLength : irBytes.length = inputReportIrSize mode)
    (extLength : extBytes.length = inputReportExtSize mode)
    (btnLength : btnBytes.length = if inputReportHasBtn mode then 2 else 0)
    (accStored : storeBytes report (inputReportAccOffset mode) accBytes = .ok acc)
    (irStored : storeBytes acc (inputReportIrOffset mode) irBytes = .ok ir)
    (extStored : storeBytes ir (inputReportExtOffset mode) extBytes = .ok ext)
    (btnStored : storeBytes ext 0 btnBytes = .ok btn) :
    btn.take ((if inputReportHasBtn mode then 2 else 0) + inputReportAccSize mode +
        inputReportExtSize mode + inputReportIrSize mode) =
      btnBytes ++ accBytes ++ irBytes ++ extBytes := by
  obtain ⟨accAt, irAt, extAt, -⟩ := inputReport_layout mode
  have first := holds_store accStored
    (holds_nil report (if inputReportHasBtn mode then 2 else 0)) (by
      rcases accAt with none | ⟨-, at_⟩
      · exact Or.inl (List.eq_nil_of_length_eq_zero (accLength.trans none))
      · exact Or.inr at_)
  have second := holds_store irStored first (by
    rcases irAt with none | at_
    · exact Or.inl (List.eq_nil_of_length_eq_zero (irLength.trans none))
    · exact Or.inr (by rw [at_, List.nil_append, accLength]))
  have third := holds_store extStored second (by
    rcases extAt with none | at_
    · exact Or.inl (List.eq_nil_of_length_eq_zero (extLength.trans none))
    · exact Or.inr (by rw [at_, List.nil_append, List.length_append, accLength, irLength]))
  rw [List.nil_append, ← btnLength] at third
  have whole := take_store btnStored third
  rw [btnLength, List.length_append, List.length_append, accLength, irLength, extLength] at whole
  rw [List.append_assoc, List.append_assoc, ← List.append_assoc _ _ extBytes, ← whole]
  congr 1
  omega

theorem accelerometer_length (wiimote : Session) (mode : UInt8) :
    (if inputReportAccSize mode ≠ 0 then accelerometerBytes wiimote else []).length =
      inputReportAccSize mode := by
  rcases (inputReport_layout mode).1 with none | ⟨three, -⟩
  · rw [if_neg (not_not.mpr none), none]
    rfl
  · rw [if_pos (by rw [three]; decide), three]
    rfl

theorem buttons_length (word : UInt16) (mode : UInt8) :
    (if inputReportHasBtn mode then bytes16 word else []).length =
      if inputReportHasBtn mode then 2 else 0 := by
  split <;> rfl

theorem report_stored {memory : Nat → UInt8} {wiimote : Session} {report acc ir ext btn : List UInt8}
    (accStored : storeBytes report (inputReportAccOffset wiimote.reportingMode)
      (if inputReportAccSize wiimote.reportingMode ≠ 0 then accelerometerBytes wiimote else []) =
        .ok acc)
    (irStored : storeBytes acc (inputReportIrOffset wiimote.reportingMode)
      (wiimote.irRegs.read irRegsCameraData (inputReportIrSize wiimote.reportingMode)) = .ok ir)
    (extStored : storeBytes ir (inputReportExtOffset wiimote.reportingMode)
      (wiimote.extensionReport memory).2 = .ok ext)
    (btnStored : storeBytes ext 0
      (if inputReportHasBtn wiimote.reportingMode then
        bytes16 (wiimote.buttons |||
          (if inputReportAccSize wiimote.reportingMode ≠ 0 then accelerometerBits wiimote else 0))
      else []) = .ok btn) :
    btn.take ((if inputReportHasBtn wiimote.reportingMode then 2 else 0) +
        inputReportAccSize wiimote.reportingMode + inputReportExtSize wiimote.reportingMode +
        inputReportIrSize wiimote.reportingMode) =
      wiimote.reportBody memory :=
  report_take (accelerometer_length _ _) (Registers.read_length _ _ _)
    (extensionReport_length memory wiimote) (buttons_length _ _) accStored irStored extStored
    btnStored

theorem fakeWiimoteSendDataReport_performs {u : Unit}
    (run : dev.fakeWiimoteSendDataReport p = .ok (u, q)) :
    (¬ ((p.sessions dev.self).reportingMode ≠ inputReportIdReportDisabled ∧
          ((p.sessions dev.self).reportingContinuous = true ∨
            (p.sessions dev.self).inputDirty = true)) ∧ p = q) ∨
      ∃ placed, dev.Performs p [.report placed] q := by
  obtain ⟨wiimote, _, got, run⟩ := bind_ok.mp run
  obtain ⟨rfl, rfl⟩ := getSession_ok got
  split at run
  · rename_i disabled
    cases run
    exact Or.inl ⟨fun reports => reports.1 disabled, rfl⟩
  · rename_i mode
    split at run
    · rename_i due
      obtain ⟨report, p1, read, run⟩ := bind_ok.mp run
      obtain ⟨-, platform1, air1⟩ := stackBytes_air read
      obtain ⟨acc, _, first, run⟩ := bind_ok.mp run
      obtain ⟨accStored, rfl⟩ := lift_ok.mp first
      obtain ⟨ir, _, second, run⟩ := bind_ok.mp run
      obtain ⟨irStored, rfl⟩ := lift_ok.mp second
      have sessions1 : p1.sessions = p.sessions := congrArg Air.sessions air1
      obtain ⟨extension, p2, third, run⟩ := bind_ok.mp run
      rw [← sessions1] at third
      obtain ⟨rfl, platform2, air2⟩ := extensionBytes_air third
      obtain ⟨ext, _, fourth, run⟩ := bind_ok.mp run
      obtain ⟨extStored, rfl⟩ := lift_ok.mp fourth
      obtain ⟨btn, _, fifth, run⟩ := bind_ok.mp run
      obtain ⟨btnStored, rfl⟩ := lift_ok.mp fifth
      obtain ⟨ret, p3, reply, run⟩ := bind_ok.mp run
      obtain ⟨platform3, air3⟩ := sendHidInputReport_air reply
      obtain ⟨platform4, air4⟩ := modifySession_air run
      refine Or.inr ⟨decide (ret = .iosOk), .single ⟨mode, due⟩ ?_ ?_⟩
      · rw [platform4, platform3, platform2, platform1]
      · rw [sessions1, platform1] at extStored air2
        have session2 : p2.sessions dev.self =
            ((p.sessions dev.self).extensionReport p.platform.memory).1 := by
          have same := congrArg (fun a : Air => a.sessions dev.self) air2
          simp only [Air.change_sessions] at same
          exact same
        have session3 : p3.sessions dev.self = p2.sessions dev.self :=
          congrArg (fun a : Air => a.sessions dev.self) air3
        have body := report_stored accStored irStored extStored btnStored
        have packet : inputReportPacket dev.conHandle (p2.sessions dev.self)
            (p.sessions dev.self).reportingMode
            ((p.sessions dev.self).reportBody p.platform.memory) =
            inputReportPacket dev.conHandle (p.sessions dev.self)
              (p.sessions dev.self).reportingMode
              ((p.sessions dev.self).reportBody p.platform.memory) := by
          obtain ⟨key, dirty, same⟩ :=
            extensionReport_session p.platform.memory (p.sessions dev.self)
          rw [session2, same]
          rfl
        rw [air4, air3, body, packet, session3, session2, air2, air1, Air.change_sent,
          Air.change_change, Air.act_sends rfl rfl rfl rfl]
        rfl
    · rename_i idle
      cases run
      exact Or.inl ⟨fun reports => idle reports.2, rfl⟩

end Device

theorem modifyMapping_air {p q : Periphery} {d : SlotId} {f : Mapping → Mapping} {u : Unit}
    (run : modifyMapping d f p = .ok (u, q)) :
    q.platform = p.platform ∧
      q.air = { p.air with
        extensions := Function.update p.air.extensions d (f (p.mappings d)).extension } := by
  cases run
  refine ⟨rfl, ?_⟩
  simp only [Periphery.air, Air.mk.injEq, true_and, and_true]
  funext e
  by_cases same : e = d
  · subst same
    simp
  · simp [same]

theorem modifyMapping_still {p q : Periphery} {d : SlotId} {f : Mapping → Mapping} {u : Unit}
    (run : modifyMapping d f p = .ok (u, q))
    (kept : ∀ mapping, (f mapping).extension = mapping.extension) : q.platform = p.platform ∧ q.air = p.air := by
  obtain ⟨platform, air⟩ := modifyMapping_air run
  refine ⟨platform, ?_⟩
  rw [air, kept]
  simp [Periphery.air]

theorem checkSwitchIrEmuMode_air {p q : Periphery} {d : SlotId} {device : EgcDevice} {u : Unit}
    (run : checkSwitchIrEmuMode d device p = .ok (u, q)) :
    q.platform = p.platform ∧ q.air = p.air := by
  obtain ⟨_, _, got, run⟩ := bind_ok.mp run
  cases got
  obtain ⟨_, p1, first, run⟩ := bind_ok.mp run
  obtain ⟨platform1, air1⟩ := modifyMapping_still first fun _ => rfl
  unfold when at run
  split at run
  · obtain ⟨platform2, air2⟩ := modifyMapping_still run fun _ => rfl
    exact ⟨platform2.trans platform1, air2.trans air1⟩
  · cases run
    exact ⟨platform1, air1⟩

theorem deref_ok {α : Type} {x : Option α} {p q : Periphery} {a : α}
    (run : (liftM (deref x) : P α) p = .ok (a, q)) : x = some a ∧ p = q := by
  obtain ⟨found, same⟩ := lift_ok.mp run
  cases x with
  | none => cases found
  | some b =>
      cases found
      exact ⟨rfl, same⟩

theorem controller_of {dev : Device} {d : SlotId} (points : dev.link.inputDevice = some d) :
    Deed.controller dev = (dev.core.slots d).device := by
  rw [Deed.controller, points, Option.bind_some]

theorem stackIrDots_air {p q : Periphery} {irDots : List IrDot}
    (run : stackIrDots p = .ok (irDots, q)) : q.platform = p.platform ∧ q.air = p.air := by
  obtain ⟨bytes, p1, read, run⟩ := bind_ok.mp run
  cases run
  exact (stackBytes_air read).2

namespace Device

variable {dev : Device} {p q : Periphery}

theorem reportInputs_performs {d : SlotId} {device : EgcDevice} {u : Unit}
    (points : dev.link.inputDevice = some d) (holds : (dev.core.slots d).device = some device)
    (run : reportInputs d device (dev.core.slots d).assignedWiimote p = .ok (u, q)) :
    ∃ v irDots, (dev.core.slots d).assignedWiimote = some v ∧
      dev.Performs p [.feed d v (p.mappings d).extension (p.gamepads device.id)
        (decide (device.desc.numAccelerometers > 0)) irDots] q := by
  obtain ⟨_, _, got, run⟩ := bind_ok.mp run
  cases got
  obtain ⟨v, _, first, run⟩ := bind_ok.mp run
  obtain ⟨assigned, rfl⟩ := deref_ok first
  obtain ⟨stack, p1, read, run⟩ := bind_ok.mp run
  obtain ⟨platform1, air1⟩ := stackIrDots_air read
  obtain ⟨_, p2, emulated, run⟩ := bind_ok.mp run
  obtain ⟨platform2, air2⟩ := modifyMapping_still emulated fun _ => rfl
  obtain ⟨platform3, air3⟩ := modifySession_air run
  have session : p2.sessions v = p.sessions v :=
    congrArg (fun a : Air => a.sessions v) (air2.trans air1)
  refine ⟨v, (irDotsFor p (p.gamepads device.id) (p.mappings d) stack).2, assigned,
    .single ⟨⟨points, by rw [holds]; rfl, assigned⟩, rfl⟩ ?_ ?_⟩
  · rw [platform3, platform2, platform1]
  · rw [air3, air2, air1, session, Air.act_silent rfl rfl rfl rfl]
    simp only [Deed.target, Deed.session, decide_eq_true_eq]
    rfl

theorem inputDeviceReportInput_performs {report : Bool}
    (run : inputDeviceReportInput dev.core dev.link.inputDevice p = .ok (report, q)) :
    (report = false ∧ ∃ d v ext, dev.Performs p [.switch d v ext] q) ∨
      (report = true ∧ ∃ d v ext input accelerometer irDots,
        dev.Performs p [.feed d v ext input accelerometer irDots] q) := by
  obtain ⟨d, _, first, run⟩ := bind_ok.mp run
  obtain ⟨points, rfl⟩ := deref_ok first
  obtain ⟨device, _, second, run⟩ := bind_ok.mp run
  obtain ⟨holds, rfl⟩ := deref_ok second
  obtain ⟨_, _, got, run⟩ := bind_ok.mp run
  cases got
  obtain ⟨_, p1, held, run⟩ := bind_ok.mp run
  obtain ⟨platform1, air1⟩ := modifyMapping_still held fun _ => rfl
  split at run
  · obtain ⟨_, p2, switched, run⟩ := bind_ok.mp run
    obtain ⟨platform2, air2⟩ := modifyMapping_air switched
    obtain ⟨v, _, third, run⟩ := bind_ok.mp run
    obtain ⟨assigned, rfl⟩ := deref_ok third
    obtain ⟨_, p3, retargeted, run⟩ := bind_ok.mp run
    obtain ⟨platform3, air3⟩ := modifySession_air retargeted
    cases run
    have session : p2.sessions v = p.sessions v := by
      have same := congrArg (fun a : Air => a.sessions v) air2
      rw [air1] at same
      exact same
    refine Or.inl ⟨rfl, d, v, _, .single ⟨⟨points, by rw [holds]; rfl, assigned⟩, rfl⟩ ?_ ?_⟩
    · rw [platform3, platform2, platform1]
    · rw [air3, air2, air1, session]
      simp only [Air.act, Deed.packet, Deed.placed, Deed.egcCalls, Option.toList_none,
        List.length_nil, Nat.add_zero, Bool.false_eq_true, if_false, List.append_nil]
      rfl
  · obtain ⟨_, p2, checked, run⟩ := bind_ok.mp run
    obtain ⟨platform2, air2⟩ := checkSwitchIrEmuMode_air checked
    obtain ⟨_, p3, reported, run⟩ := bind_ok.mp run
    cases run
    obtain ⟨v, irDots, -, fed⟩ := reportInputs_performs points holds reported
    exact Or.inr ⟨rfl, d, v, _, _, _, irDots,
      fed.after (platform2.trans platform1) (air2.trans air1)⟩

theorem checkSendConfigForNewChannel_performs {chn : Channel} {u : Unit}
    (run : dev.checkSendConfigForNewChannel chn p = .ok (u, q)) :
    (¬ (((p.sessions dev.self).channel chn).isAccepted ∧
        ((p.sessions dev.self).channel chn).state = .inactive) ∧ p = q) ∨
      ∃ placed, dev.Performs p [.configure chn placed] q := by
  obtain ⟨wiimote, _, got, run⟩ := bind_ok.mp run
  obtain ⟨rfl, rfl⟩ := getSession_ok got
  unfold when at run
  split at run
  · rename_i accepted
    obtain ⟨ret, p1, injected, run⟩ := bind_ok.mp run
    rw [injectL2capConfigReq_eq] at injected
    obtain ⟨platform1, air1⟩ :=
      injectFilled_air (fills_l2capCmdMsg (configReqPayload_short _ _ _)) injected
    refine Or.inr ⟨decide (ret = .iosOk), ?_⟩
    split at run
    · rename_i ok
      obtain ⟨platform2, air2⟩ := modifySession_air run
      refine .single accepted (platform2.trans platform1) ?_
      have session : p1.sessions = p.sessions := congrArg Air.sessions air1
      rw [air2, air1, session, Air.change_sent, Air.act_sends rfl rfl rfl rfl]
      simp only [Deed.target, Deed.session, Deed.placed, ok, decide_true, if_true]
      rfl
    · rename_i failed
      cases run
      refine .single accepted platform1 ?_
      rw [air1, Air.act_sends rfl rfl rfl rfl]
      simp only [Deed.target, Deed.session, Deed.placed, failed, decide_false]
      exact congrArg (Air.sent · _ _) (p.air.change_self dev.self).symm
  · rename_i other
    cases run
    exact Or.inl ⟨other, rfl⟩

theorem requestChannel_performs {chn : Channel} {psm : UInt16} {u : Unit}
    (run : dev.requestChannel chn psm p = .ok (u, q)) :
    dev.Performs p [.request chn psm p.startingId] q := by
  obtain ⟨localCid, p1, generated, run⟩ := bind_ok.mp run
  cases generated
  obtain ⟨ret, p2, injected, run⟩ := bind_ok.mp run
  have fits : (connectReqPayload psm p.startingId).length + 12 < 65536 := by
    change 4 + 12 < 65536
    decide
  obtain ⟨platform2, air2⟩ := injectFilled_air (fills_l2capCmdMsg fits) injected
  obtain ⟨_, _, asserted, run⟩ := bind_ok.mp run
  obtain ⟨ok, rfl⟩ := assertThat_ok asserted
  obtain ⟨platform3, air3⟩ := modifySession_air run
  refine .single rfl (platform3.trans platform2) ?_
  have session : p2.sessions = p.sessions := congrArg Air.sessions air2
  rw [air3, air2, session, ok]
  simp [Air.act, Air.change, Air.sent, Deed.target, Deed.session, Deed.packet, Deed.extensions,
    Deed.startingId, Deed.egcCalls, Deed.placed, Periphery.air]

def Configures (deeds : List Deed) : Prop :=
  ∀ deed ∈ deeds, ∃ chn placed, deed = .configure chn placed

theorem checkSendConfigs_performs {u : Unit} (run : dev.checkSendConfigs p = .ok (u, q)) :
    ∃ deeds, Configures deeds ∧ dev.Performs p deeds q := by
  have step {chn : Channel} {p q : Periphery} {u : Unit}
      (run : dev.checkSendConfigForNewChannel chn p = .ok (u, q)) :
      ∃ deeds, Configures deeds ∧ dev.Performs p deeds q := by
    rcases checkSendConfigForNewChannel_performs run with ⟨-, rfl⟩ | ⟨placed, performed⟩
    · exact ⟨[], fun _ member => absurd member List.not_mem_nil, .refl _⟩
    · refine ⟨_, ?_, performed⟩
      intro deed member
      exact ⟨chn, placed, List.mem_singleton.mp member⟩
  obtain ⟨_, p1, first, run⟩ := bind_ok.mp run
  obtain ⟨one, oneConfigures, before⟩ := step first
  obtain ⟨two, twoConfigures, after⟩ := step run
  refine ⟨one ++ two, ?_, before.append after⟩
  intro deed member
  rcases List.mem_append.mp member with h | h
  · exact oneConfigures deed h
  · exact twoConfigures deed h

inductive LinkingDeeds (wiimote : Session) : List Deed → Prop
  | requestCntl {localCid : UInt16} {deeds : List Deed} :
      wiimote.psmHidCntlChn.valid = false → Configures deeds →
      LinkingDeeds wiimote (.request .hidCntl l2capPsmHidCntl localCid :: deeds)
  | requestIntr {localCid : UInt16} {deeds : List Deed} :
      wiimote.psmHidCntlChn.isComplete = true → wiimote.psmHidIntrChn.valid = false →
      Configures deeds →
      LinkingDeeds wiimote (.request .hidIntr l2capPsmHidIntr localCid :: deeds)
  | finish : wiimote.psmHidCntlChn.isComplete = true → wiimote.psmHidIntrChn.isComplete = true →
      LinkingDeeds wiimote [.finish]
  | wait {deeds : List Deed} : Configures deeds →
      ¬ (wiimote.psmHidCntlChn.isComplete = true ∧ wiimote.psmHidIntrChn.isComplete = true) →
      LinkingDeeds wiimote deeds

theorem tickLinking_performs {u : Unit} (run : dev.tickLinking p = .ok (u, q)) :
    ∃ deeds, LinkingDeeds (p.sessions dev.self) deeds ∧ dev.Performs p deeds q := by
  obtain ⟨wiimote, _, got, run⟩ := bind_ok.mp run
  obtain ⟨rfl, rfl⟩ := getSession_ok got
  split at run
  · rename_i invalid
    obtain ⟨_, p1, first, run⟩ := bind_ok.mp run
    obtain ⟨deeds, configures, after⟩ := checkSendConfigs_performs run
    exact ⟨_, .requestCntl invalid configures, (requestChannel_performs first).append after⟩
  · split at run
    · rename_i ready
      obtain ⟨_, p1, first, run⟩ := bind_ok.mp run
      obtain ⟨deeds, configures, after⟩ := checkSendConfigs_performs run
      exact ⟨_, .requestIntr ready.1 ready.2 configures,
        (requestChannel_performs first).append after⟩
    · split at run
      · rename_i complete
        obtain ⟨_, p1, stored, run⟩ := bind_ok.mp run
        obtain ⟨platform1, air1⟩ := modifySession_air stored
        obtain ⟨d, _, second, run⟩ := bind_ok.mp run
        obtain ⟨points, rfl⟩ := deref_ok second
        obtain ⟨platform2, air2⟩ := callEgc_air run
        refine ⟨_, .finish complete.1 complete.2,
          .single complete (platform2.trans platform1) ?_⟩
        rw [air2, air1, Air.act_calls rfl rfl rfl rfl, controller_of points]
        rfl
      · rename_i incomplete
        obtain ⟨deeds, configures, performed⟩ := checkSendConfigs_performs run
        exact ⟨deeds, .wait configures incomplete, performed⟩

inductive ReportDeeds (wiimote : Session) : List Deed → Prop
  | chunk {placed : Bool} : wiimote.readRequest.size ≠ 0 → ReportDeeds wiimote [.chunk placed]
  | change {padding : List UInt8} {placed : Bool} : wiimote.readRequest.size = 0 →
      wiimote.newExtension ≠ wiimote.curExtension → padding.length = 2 →
      ReportDeeds wiimote [.change padding placed]
  | switch {d : SlotId} {v : WiimoteId} {ext : WiimoteExt} : wiimote.readRequest.size = 0 →
      wiimote.newExtension = wiimote.curExtension → ReportDeeds wiimote [.switch d v ext]
  | feed {d : SlotId} {v : WiimoteId} {ext : WiimoteExt} {input : Gamepad} {accelerometer : Bool}
      {irDots : List IrDot} : wiimote.readRequest.size = 0 →
      wiimote.newExtension = wiimote.curExtension →
      ReportDeeds wiimote [.feed d v ext input accelerometer irDots]
  | report {d : SlotId} {v : WiimoteId} {ext : WiimoteExt} {input : Gamepad} {accelerometer : Bool}
      {irDots : List IrDot} {placed : Bool} : wiimote.readRequest.size = 0 →
      wiimote.newExtension = wiimote.curExtension →
      ReportDeeds wiimote [.feed d v ext input accelerometer irDots, .report placed]

theorem tickReports_performs {u : Unit} (run : dev.tickReports p = .ok (u, q)) :
    ∃ deeds, ReportDeeds (p.sessions dev.self) deeds ∧ dev.Performs p deeds q := by
  obtain ⟨read, p1, first, run⟩ := bind_ok.mp run
  rcases fakeWiimoteProcessReadRequest_performs first with ⟨rfl, idle, rfl⟩ |
    ⟨rfl, placed, performed⟩
  · obtain ⟨changed, p2, second, run⟩ := bind_ok.mp run
    rcases fakeWiimoteProcessExtensionChange_performs second with ⟨rfl, same, rfl⟩ |
      ⟨rfl, padding, placed, length, performed⟩
    · obtain ⟨report, p3, third, run⟩ := bind_ok.mp run
      rcases inputDeviceReportInput_performs third with ⟨rfl, d, v, ext, performed⟩ |
        ⟨rfl, d, v, ext, input, accelerometer, irDots, performed⟩
      · cases run
        exact ⟨_, .switch idle same, performed⟩
      · rcases fakeWiimoteSendDataReport_performs run with ⟨-, rfl⟩ | ⟨placed, reported⟩
        · exact ⟨_, .feed idle same, performed⟩
        · exact ⟨_, .report idle same, performed.append reported⟩
    · cases run
      exact ⟨_, .change idle (performed.path.1) length, performed⟩
  · cases run
    exact ⟨_, .chunk performed.path.1, performed⟩

theorem tickConnected_performs {u : Unit} (run : dev.tickConnected p = .ok (u, q)) :
    ∃ deeds, dev.Performs p deeds q ∧
      if (p.sessions dev.self).aclState = .linking then LinkingDeeds (p.sessions dev.self) deeds
      else ReportDeeds (p.sessions dev.self) deeds := by
  obtain ⟨wiimote, _, got, run⟩ := bind_ok.mp run
  obtain ⟨rfl, rfl⟩ := getSession_ok got
  split at run
  · rename_i linking
    obtain ⟨deeds, shape, performed⟩ := tickLinking_performs run
    exact ⟨deeds, performed, by rw [if_pos linking]; exact shape⟩
  · rename_i inactive
    obtain ⟨deeds, shape, performed⟩ := tickReports_performs run
    exact ⟨deeds, performed, by rw [if_neg inactive]; exact shape⟩

end Device

end Fakemote
