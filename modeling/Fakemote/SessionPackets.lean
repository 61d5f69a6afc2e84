import Fakemote.SessionTrace

/-! What the host's packets make the session code do, in deeds of the abstract machine. -/

namespace Fakemote

open Bytes Program Labelled

namespace Device

variable {dev : Device} {p q : Periphery}

theorem getChannelInfo_some {wiimote : Session} {localCid : UInt16} {chn : Channel}
    (found : wiimote.getChannelInfo localCid = some chn) :
    (wiimote.channel chn).valid = true ∧ localCid = (wiimote.channel chn).localCid := by
  unfold Session.getChannelInfo at found
  split at found
  · rename_i match_
    cases found
    exact match_
  · split at found
    · rename_i match_
      cases found
      exact match_
    · split at found
      · rename_i match_
        cases found
        exact match_
      · cases found

theorem channelOrFault_ok {localCid : UInt16} {chn : Channel}
    (run : dev.channelOrFault localCid p = .ok (chn, q)) :
    (p.sessions dev.self).getChannelInfo localCid = some chn ∧ p = q := by
  obtain ⟨wiimote, _, got, run⟩ := bind_ok.mp run
  obtain ⟨rfl, rfl⟩ := getSession_ok got
  obtain ⟨found, same⟩ := lift_ok.mp run
  exact ⟨orFault_ok.mp found, same⟩

theorem handleConnectRsp_performs {dcid scid status : UInt16} {u : Unit}
    (run : dev.handleConnectRsp dcid scid status p = .ok (u, q)) :
    ∃ chn, (p.sessions dev.self).getChannelInfo scid = some chn ∧
      dev.Performs p [.recordCid chn dcid] q := by
  obtain ⟨_, _, asserted, run⟩ := bind_ok.mp run
  obtain ⟨-, rfl⟩ := assertThat_ok asserted
  obtain ⟨chn, _, looked, run⟩ := bind_ok.mp run
  obtain ⟨found, rfl⟩ := channelOrFault_ok looked
  obtain ⟨platform, air⟩ := modifySession_air run
  refine ⟨chn, found, .single (getChannelInfo_some found).1 platform ?_⟩
  rw [air, Air.act_silent rfl rfl rfl rfl]
  rfl

theorem handleConfigRsp_performs {scid result : UInt16} {u : Unit}
    (run : dev.handleConfigRsp scid result p = .ok (u, q)) :
    ∃ chn, (p.sessions dev.self).getChannelInfo scid = some chn ∧
      dev.Performs p [.complete chn] q := by
  obtain ⟨_, _, asserted, run⟩ := bind_ok.mp run
  obtain ⟨-, rfl⟩ := assertThat_ok asserted
  obtain ⟨chn, _, looked, run⟩ := bind_ok.mp run
  obtain ⟨found, rfl⟩ := channelOrFault_ok looked
  obtain ⟨platform, air⟩ := modifySession_air run
  refine ⟨chn, found, .single (getChannelInfo_some found).1 platform ?_⟩
  rw [air, Air.act_silent rfl rfl rfl rfl]
  rfl

theorem handleDisconnectReq_performs {ident : UInt8} {dcid scid : UInt16} {u : Unit}
    (run : dev.handleDisconnectReq ident dcid scid p = .ok (u, q)) :
    ∃ chn placed, (p.sessions dev.self).getChannelInfo dcid = some chn ∧
      dev.Performs p [.close chn ident dcid scid placed] q := by
  obtain ⟨chn, _, looked, run⟩ := bind_ok.mp run
  obtain ⟨found, rfl⟩ := channelOrFault_ok looked
  obtain ⟨_, p1, stored, run⟩ := bind_ok.mp run
  obtain ⟨platform1, air1⟩ := modifySession_air stored
  obtain ⟨ret, p2, injected, run⟩ := bind_ok.mp run
  cases run
  have fits : (disconnectPayload dcid scid).length + 12 < 65536 := by
    change 4 + 12 < 65536
    decide
  obtain ⟨platform2, air2⟩ := injectFilled_air (fills_l2capCmdMsg fits) injected
  refine ⟨chn, decide (ret = .iosOk), found,
    .single (getChannelInfo_some found).1 (platform2.trans platform1) ?_⟩
  rw [air2, air1, Air.act_sends rfl rfl rfl rfl]
  rfl

theorem injectL2capConfigRsp_air {handle remoteCid : UInt16} {ident : UInt8} {options : List UInt8}
    {size : UInt16} {ret : IosResult}
    (run : injectL2capConfigRsp handle remoteCid ident options size p = .ok (ret, q)) :
    q.platform = p.platform ∧
      q.air = p.air.sent (signalPacket handle l2capConfigRsp ident
        (configRspPayload remoteCid (options.take size.toNat))) (ret = .iosOk) := by
  rcases copied : loadBytes options 0 size.toNat with fault | bytes
  · unfold injectL2capConfigRsp at run
    rw [copied] at run
    exact injectBulkIn_air (fun data source => by cases source) run
  · have length : (configRspPayload remoteCid bytes).length = bytes.length + 6 := by
      simp only [configRspPayload, List.length_append, bytes16_length]
      omega
    have words : UInt16.ofNat l2capCfgRspCpSize + size =
        UInt16.ofNat (configRspPayload remoteCid bytes).length := by
      rw [length, loadBytes_length copied, Nat.add_comm, UInt16.ofNat_add, UInt16.ofNat_toNat]
      rfl
    have same : injectL2capConfigRsp handle remoteCid ident options size =
        injectBulkIn ⟨UInt16.ofNat ((configRspPayload remoteCid bytes).length + 12),
          .ok (signalPacket handle l2capConfigRsp ident (configRspPayload remoteCid bytes))⟩ := by
      unfold injectL2capConfigRsp
      rw [copied, words]
      exact congrArg injectBulkIn (l2capCmdMsg_eq _ _ _ _)
    rw [same] at run
    rw [← loadBytes_take copied]
    apply injectBulkIn_air _ run
    intro data source room
    cases source
    refine ⟨rfl, Nat.le_antisymm ?_ room⟩
    rw [signalPacket, aclPacket_length, l2capFrame_length, l2capCommand_length]
    exact Nat.mod_le _ _

theorem handleL2capConfigReq_performs {ident : UInt8} {dcid flags : UInt16} {options : List UInt8}
    {size : UInt16} {u : Unit}
    (run : dev.handleL2capConfigReq ident dcid flags options size p = .ok (u, q)) :
    ∃ chn mtu placed, (p.sessions dev.self).getChannelInfo dcid = some chn ∧
      configOptions size.toNat options 0 size.toNat l2capMtuDefault = .ok mtu ∧
      dev.Performs p [.recordMtu chn mtu ident (options.take size.toNat) placed] q := by
  obtain ⟨_, _, asserted, run⟩ := bind_ok.mp run
  obtain ⟨-, rfl⟩ := assertThat_ok asserted
  obtain ⟨chn, _, looked, run⟩ := bind_ok.mp run
  obtain ⟨found, rfl⟩ := channelOrFault_ok looked
  obtain ⟨mtu, _, second, run⟩ := bind_ok.mp run
  obtain ⟨read, rfl⟩ := lift_ok.mp second
  obtain ⟨wiimote, _, got, run⟩ := bind_ok.mp run
  obtain ⟨rfl, rfl⟩ := getSession_ok got
  obtain ⟨_, p1, stored, run⟩ := bind_ok.mp run
  obtain ⟨platform1, air1⟩ := modifySession_air stored
  obtain ⟨ret, p2, injected, run⟩ := bind_ok.mp run
  cases run
  obtain ⟨platform2, air2⟩ := injectL2capConfigRsp_air injected
  refine ⟨chn, mtu, decide (ret = .iosOk), found, read,
    .single (getChannelInfo_some found).1 (platform2.trans platform1) ?_⟩
  rw [air2, air1, Air.act_sends rfl rfl rfl rfl]
  rfl

theorem fakeWiimoteUpdateRumble_performs {on : Bool} {u : Unit}
    (run : dev.fakeWiimoteUpdateRumble on p = .ok (u, q)) :
    ((p.sessions dev.self).rumbleOn = on ∧ p = q) ∨ dev.Performs p [.rumble on] q := by
  obtain ⟨wiimote, _, got, run⟩ := bind_ok.mp run
  obtain ⟨rfl, rfl⟩ := getSession_ok got
  unfold when at run
  split at run
  · obtain ⟨_, p1, stored, run⟩ := bind_ok.mp run
    obtain ⟨platform, air⟩ := modifySession_air stored
    obtain ⟨d, _, first, run⟩ := bind_ok.mp run
    obtain ⟨points, rfl⟩ := deref_ok first
    obtain ⟨platform2, air2⟩ := callEgc_air run
    refine Or.inr (.single trivial (platform2.trans platform) ?_)
    rw [air2, air, Air.act_calls rfl rfl rfl rfl, controller_of points]
    rfl
  · rename_i same
    cases run
    exact Or.inl ⟨(not_not.mp same).symm, rfl⟩

theorem ackReport_performs {flags rptId : UInt8} {u : Unit}
    (run : dev.ackReport flags rptId p = .ok (u, q)) :
    p = q ∨ ∃ placed, dev.Performs p [.ack rptId errorCodeSuccess placed] q := by
  unfold ackReport when at run
  split at run
  · obtain ⟨ret, p1, acked, run⟩ := bind_ok.mp run
    cases run
    exact Or.inr (wiimoteSendAck_performs acked)
  · cases run
    exact Or.inl rfl

def readRequestOf (report : List UInt8) : Except Fault ReadRequest := do
  let flags ← load8 report 0
  let slave ← load8 report 1
  let address ← load16 report 2
  let size ← load16 report 4
  return ⟨(flags >>> (2 : UInt8)) &&& (3 : UInt8), slave >>> (1 : UInt8), address, size⟩

/-- Refused while a read is in progress; else started, with the first reply at once. -/
theorem handleReadData_performs {report : List UInt8} {u : Unit}
    (run : dev.handleReadData report p = .ok (u, q)) :
    ((p.sessions dev.self).readRequest.size ≠ 0 ∧
      ∃ placed, dev.Performs p [.ack outputReportIdReadData errorCodeBusy placed] q) ∨
    ((p.sessions dev.self).readRequest.size = 0 ∧ ∃ request,
      readRequestOf report = .ok request ∧
      (request.size = 0 ∧ dev.Performs p [.startRead request] q ∨
        request.size ≠ 0 ∧ ∃ placed, dev.Performs p [.startRead request, .chunk placed] q)) := by
  obtain ⟨wiimote, _, got, run⟩ := bind_ok.mp run
  obtain ⟨rfl, rfl⟩ := getSession_ok got
  split at run
  · rename_i busy
    obtain ⟨ret, p1, acked, run⟩ := bind_ok.mp run
    cases run
    exact Or.inl ⟨busy, wiimoteSendAck_performs acked⟩
  · rename_i idle
    rw [not_not] at idle
    obtain ⟨flags, _, first, run⟩ := bind_ok.mp run
    obtain ⟨flagsAt, rfl⟩ := lift_ok.mp first
    obtain ⟨slave, _, second, run⟩ := bind_ok.mp run
    obtain ⟨slaveAt, rfl⟩ := lift_ok.mp second
    obtain ⟨address, _, third, run⟩ := bind_ok.mp run
    obtain ⟨addressAt, rfl⟩ := lift_ok.mp third
    obtain ⟨size, _, fourth, run⟩ := bind_ok.mp run
    obtain ⟨sizeAt, rfl⟩ := lift_ok.mp fourth
    obtain ⟨_, p1, stored, run⟩ := bind_ok.mp run
    obtain ⟨platform, air⟩ := modifySession_air stored
    obtain ⟨done, p2, chunk, run⟩ := bind_ok.mp run
    cases run
    let request : ReadRequest :=
      ⟨(flags >>> (2 : UInt8)) &&& (3 : UInt8), slave >>> (1 : UInt8), address, size⟩
    have started : dev.Performs p [.startRead request] p1 := by
      refine .single idle platform ?_
      rw [air, Air.act_silent rfl rfl rfl rfl]
      rfl
    have session : (p1.sessions dev.self).readRequest = request := by
      have same := congrArg (fun a : Air => (a.sessions dev.self).readRequest) air
      simp only [Air.change_sessions] at same
      exact same
    have asked : readRequestOf report = .ok request := by
      unfold readRequestOf
      rw [flagsAt, slaveAt, addressAt, sizeAt]
      rfl
    refine Or.inr ⟨idle, request, asked, ?_⟩
    rcases fakeWiimoteProcessReadRequest_performs chunk with ⟨rfl, empty, rfl⟩ |
      ⟨rfl, placed, performed⟩
    · rw [session] at empty
      exact Or.inl ⟨empty, started⟩
    · refine Or.inr ⟨?_, placed, started.append performed⟩
      have pending : (p1.sessions dev.self).readRequest.size ≠ 0 := performed.path.1
      rw [session] at pending
      exact pending

def Acks (rptId : UInt8) (deeds : List Deed) : Prop :=
  deeds = [] ∨ ∃ placed, deeds = [.ack rptId errorCodeSuccess placed]

/-- What an output report leads to, apart from its rumble bit; `pending` is the size of the read
in progress. -/
inductive OutputDeeds (pending : UInt16) (report : List UInt8) : UInt8 → List Deed → Prop
  | rumble : OutputDeeds pending report outputReportIdRumble []
  | speakerData : OutputDeeds pending report outputReportIdSpeakerData []
  | leds {value : UInt8} {acks : List Deed} : Acks outputReportIdLed acks →
      OutputDeeds pending report outputReportIdLed (.leds value :: acks)
  | mode {mode : UInt8} {continuous : Bool} {acks : List Deed} : load8 report 1 = .ok mode →
      Acks outputReportIdReportMode acks →
      OutputDeeds pending report outputReportIdReportMode (.mode mode continuous :: acks)
  | ir {on : Bool} {acks : List Deed} : Acks outputReportIdIrEnable acks →
      OutputDeeds pending report outputReportIdIrEnable (.ir on :: acks)
  | ack {id : UInt8} {acks : List Deed} :
      id ∈ [outputReportIdSpeakerEnable, outputReportIdSpeakerMute, outputReportIdIrEnable2] →
      Acks id acks → OutputDeeds pending report id acks
  | status {padding : List UInt8} {placed : Bool} : padding.length = 2 →
      OutputDeeds pending report outputReportIdStatus [.status padding placed]
  | noWrite : OutputDeeds pending report outputReportIdWriteData []
  | write {data : WriteRequest} {placed : Bool} :
      OutputDeeds pending report outputReportIdWriteData [.write data placed]
  | busy {placed : Bool} : pending ≠ 0 →
      OutputDeeds pending report outputReportIdReadData
        [.ack outputReportIdReadData errorCodeBusy placed]
  | empty {request : ReadRequest} : pending = 0 → readRequestOf report = .ok request →
      request.size = 0 → OutputDeeds pending report outputReportIdReadData [.startRead request]
  | read {request : ReadRequest} {placed : Bool} : pending = 0 →
      readRequestOf report = .ok request → request.size ≠ 0 →
      OutputDeeds pending report outputReportIdReadData [.startRead request, .chunk placed]

theorem handleOutputReport_performs {id flags : UInt8} {report : List UInt8} {u : Unit}
    (run : dev.handleOutputReport id flags report p = .ok (u, q)) :
    ∃ deeds, OutputDeeds (p.sessions dev.self).readRequest.size report id deeds ∧
      dev.Performs p deeds q := by
  have acked {rptId : UInt8} {p q : Periphery} {u : Unit}
      (run : dev.ackReport flags rptId p = .ok (u, q)) :
      ∃ deeds, Acks rptId deeds ∧ dev.Performs p deeds q := by
    rcases ackReport_performs run with rfl | ⟨placed, performed⟩
    · exact ⟨[], Or.inl rfl, .refl _⟩
    · exact ⟨_, Or.inr ⟨placed, rfl⟩, performed⟩
  unfold handleOutputReport at run
  rcases ite_run run with ⟨rfl, run⟩ | ⟨-, run⟩
  · cases run
    exact ⟨[], .rumble, .refl _⟩
  rcases ite_run run with ⟨rfl, run⟩ | ⟨-, run⟩
  · obtain ⟨_, p1, stored, run⟩ := bind_ok.mp run
    obtain ⟨platform1, air1⟩ := modifySession_air stored
    obtain ⟨_, p2, lit, run⟩ := bind_ok.mp run
    obtain ⟨d, _, first, lit⟩ := bind_ok.mp lit
    obtain ⟨points, rfl⟩ := deref_ok first
    obtain ⟨platform2, air2⟩ := callEgc_air lit
    obtain ⟨acks, one, rest⟩ := acked run
    have stored : dev.Performs p [.leds (flags >>> (4 : UInt8))] p2 := by
      refine .single trivial (platform2.trans platform1) ?_
      rw [air2, air1, Air.act_calls rfl rfl rfl rfl, controller_of points]
      rfl
    exact ⟨_, .leds one, stored.append rest⟩
  rcases ite_run run with ⟨rfl, run⟩ | ⟨-, run⟩
  · obtain ⟨mode, _, first, run⟩ := bind_ok.mp run
    obtain ⟨modeAt, rfl⟩ := lift_ok.mp first
    obtain ⟨_, p1, stored, run⟩ := bind_ok.mp run
    obtain ⟨platform1, air1⟩ := modifySession_air stored
    obtain ⟨acks, one, rest⟩ := acked run
    have switched : dev.Performs p [.mode mode (reportBit flags 2)] p1 := by
      refine .single trivial platform1 ?_
      rw [air1, Air.act_silent rfl rfl rfl rfl]
      rfl
    exact ⟨_, .mode modeAt one, switched.append rest⟩
  rcases ite_run run with ⟨rfl, run⟩ | ⟨-, run⟩
  · obtain ⟨_, p1, stored, run⟩ := bind_ok.mp run
    obtain ⟨platform1, air1⟩ := modifySession_air stored
    obtain ⟨acks, one, rest⟩ := acked run
    have enabled : dev.Performs p [.ir (reportBit flags 2)] p1 := by
      refine .single trivial platform1 ?_
      rw [air1, Air.act_silent rfl rfl rfl rfl]
      rfl
    exact ⟨_, .ir one, enabled.append rest⟩
  rcases ite_run run with ⟨rfl, run⟩ | ⟨-, run⟩
  · obtain ⟨acks, one, rest⟩ := acked run
    exact ⟨acks, .ack (by decide) one, rest⟩
  rcases ite_run run with ⟨rfl, run⟩ | ⟨-, run⟩
  · obtain ⟨ret, p1, status, run⟩ := bind_ok.mp run
    cases run
    obtain ⟨padding, placed, length, performed⟩ := wiimoteSendInputReportStatus_performs status
    exact ⟨_, .status length, performed⟩
  rcases ite_run run with ⟨rfl, run⟩ | ⟨-, run⟩
  · rcases fakeWiimoteProcessWriteRequest_performs run with performed | ⟨data, placed, performed⟩
    · exact ⟨_, .noWrite, performed⟩
    · exact ⟨_, .write, performed⟩
  rcases ite_run run with ⟨rfl, run⟩ | ⟨-, run⟩
  · rcases handleReadData_performs run with ⟨busy, placed, performed⟩ |
      ⟨idle, request, asked, ⟨empty, performed⟩ | ⟨pending, placed, performed⟩⟩
    · exact ⟨_, .busy busy, performed⟩
    · exact ⟨_, .empty idle asked empty, performed⟩
    · exact ⟨_, .read idle asked pending, performed⟩
  rcases ite_run run with ⟨rfl, run⟩ | ⟨-, run⟩
  · cases run
    exact ⟨[], .speakerData, .refl _⟩
  rcases ite_run run with ⟨rfl, run⟩ | ⟨-, run⟩
  · obtain ⟨acks, one, rest⟩ := acked run
    exact ⟨acks, .ack (by decide) one, rest⟩
  rcases ite_run run with ⟨rfl, run⟩ | ⟨-, run⟩
  · obtain ⟨acks, one, rest⟩ := acked run
    exact ⟨acks, .ack (by decide) one, rest⟩
  cases run

inductive ReportDeedsOf (pending : UInt16) (data : List UInt8) : List Deed → Prop
  | mk {id : UInt8} {rumble deeds : List Deed} : load8 data 0 = .ok id →
      (rumble = [] ∨ ∃ on, rumble = [.rumble on]) →
      OutputDeeds pending (data.drop 1) id deeds → ReportDeedsOf pending data (rumble ++ deeds)

theorem handleHidIntrDataOutput_performs {data : List UInt8} {size : UInt16} {u : Unit}
    (run : dev.handleHidIntrDataOutput data size p = .ok (u, q)) :
    (size = 0 ∧ p = q) ∨ (size ≠ 0 ∧ ∃ deeds,
      ReportDeedsOf (p.sessions dev.self).readRequest.size data deeds ∧
      dev.Performs p deeds q) := by
  unfold handleHidIntrDataOutput at run
  split at run
  · rename_i empty
    cases run
    exact Or.inl ⟨empty, rfl⟩
  · rename_i nonempty
    refine Or.inr ⟨nonempty, ?_⟩
    obtain ⟨flags, _, first, run⟩ := bind_ok.mp run
    obtain ⟨-, rfl⟩ := lift_ok.mp first
    obtain ⟨_, p1, rumbled, run⟩ := bind_ok.mp run
    obtain ⟨id, _, second, run⟩ := bind_ok.mp run
    obtain ⟨idAt, rfl⟩ := lift_ok.mp second
    obtain ⟨deeds, shape, performed⟩ := handleOutputReport_performs run
    rcases fakeWiimoteUpdateRumble_performs rumbled with ⟨-, rfl⟩ | rumble
    · exact ⟨_, .mk idAt (Or.inl rfl) shape, performed⟩
    · have request : (p1.sessions dev.self).readRequest = (p.sessions dev.self).readRequest := by
        have after : p1.air = _ := rumble.path.2
        have same := congrArg (fun a : Air => (a.sessions dev.self).readRequest) after
        rw [Air.act_calls rfl rfl rfl rfl] at same
        exact same.trans (by simp [Air.called, Air.change, Deed.target, Deed.session, Periphery.air])
      rw [request] at shape
      exact ⟨_, .mk idAt (Or.inr ⟨_, rfl⟩) shape, rumble.append performed⟩

def reportFrom (wiimote : Session) (dcid : UInt16) (payload : List UInt8) (length : UInt16) :
    Option (List UInt8) :=
  match wiimote.getChannelInfo dcid with
  | none => none
  | some chn =>
      if (wiimote.channel chn).psm = l2capPsmHidIntr ∧ length - 1 ≠ 0 ∧
          payload.head? = some ((hidTypeData <<< (4 : UInt8)) ||| hidParamOutput) then
        some (payload.drop 1)
      else none

theorem reportFrom_some {wiimote : Session} {dcid length : UInt16} {payload data : List UInt8}
    (found : reportFrom wiimote dcid payload length = some data) : data = payload.drop 1 := by
  unfold reportFrom at found
  split at found
  · cases found
  · split at found
    · exact (Option.some.inj found).symm
    · cases found

theorem load8_head {data : List UInt8} {byte : UInt8} (loaded : load8 data 0 = .ok byte) :
    data.head? = some byte := by
  cases data with
  | nil => cases loaded
  | cons first rest =>
      cases loaded
      rfl

theorem handleChannelData_performs {dcid : UInt16} {payload : List UInt8} {length : UInt16}
    {u : Unit} (run : dev.handleChannelData dcid payload length p = .ok (u, q)) :
    match reportFrom (p.sessions dev.self) dcid payload length with
    | none => p = q
    | some data => ∃ deeds, ReportDeedsOf (p.sessions dev.self).readRequest.size data deeds ∧
        dev.Performs p deeds q := by
  obtain ⟨wiimote, _, got, run⟩ := bind_ok.mp run
  obtain ⟨rfl, rfl⟩ := getSession_ok got
  unfold reportFrom
  rcases found : (p.sessions dev.self).getChannelInfo dcid with _ | chn
  · rw [found] at run
    cases run
    rfl
  · rw [found] at run
    rcases ite_run run with ⟨intr, run⟩ | ⟨other, run⟩
    · obtain ⟨header, _, first, run⟩ := bind_ok.mp run
      obtain ⟨headerAt, rfl⟩ := lift_ok.mp first
      have head := load8_head headerAt
      rcases ite_run run with ⟨rfl, run⟩ | ⟨other, run⟩
      · rcases handleHidIntrDataOutput_performs run with ⟨empty, rfl⟩ | ⟨nonempty, performed⟩
        · simp [empty]
        · simp only [intr, head, nonempty, ne_eq, not_false_eq_true, and_self, if_true]
          exact performed
      · cases run
        have absent : ¬ (payload.head? = some ((hidTypeData <<< (4 : UInt8)) ||| hidParamOutput)) := by
          rw [head]
          simpa using other
        simp [absent]
    · cases run
      simp [other]

end Device

end Fakemote
