import Fakemote.DeedFrames
import Fakemote.FreshSession

/-! Reports only go to an open interrupt channel, as long as the host takes no HID channel away
once both are set up: nothing sets the link back to linking then. -/

namespace Fakemote

open Bytes Program Transition Labelled

namespace Session

/-- Both HID channels are complete. -/
def Open (wiimote : Session) : Prop := ∀ chn, chn ≠ .sdp → (wiimote.channel chn).isComplete = true

theorem channel_setChannel (wiimote : Session) (chn other : Channel) (info : L2capChannelInfo) :
    (wiimote.setChannel chn info).channel other =
      if other = chn then info else wiimote.channel other := by
  cases chn <;> cases other <;> rfl

theorem setChannel_aclState (wiimote : Session) (chn : Channel) (info : L2capChannelInfo) :
    (wiimote.setChannel chn info).aclState = wiimote.aclState := by
  cases chn <;> rfl

theorem Open.setChannel {wiimote : Session} (isOpen : wiimote.Open) {chn : Channel}
    {info : L2capChannelInfo} (complete : chn ≠ .sdp → info.isComplete = true) :
    (wiimote.setChannel chn info).Open := by
  intro other hid
  rw [channel_setChannel]
  by_cases same : other = chn
  · rw [if_pos same]
    exact complete (same ▸ hid)
  · rw [if_neg same]
    exact isOpen other hid

theorem Open.of_linkage {wiimote after : Session} (same : after.linkage = wiimote.linkage)
    (isOpen : wiimote.Open) : after.Open := by
  intro chn hid
  have channels : after.channel chn = wiimote.channel chn := by
    cases chn with
    | sdp => exact absurd rfl hid
    | hidCntl => exact congrArg (fun linkage => linkage.2.2.1) same
    | hidIntr => exact congrArg (fun linkage => linkage.2.2.2) same
  rw [channels]
  exact isOpen chn hid

/-- Once the link is no longer being set up, the HID channels are complete. -/
def Settled (wiimote : Session) : Prop := wiimote.aclState = .linking ∨ wiimote.Open

theorem Settled.of_linkage {wiimote after : Session} (same : after.linkage = wiimote.linkage)
    (settled : wiimote.Settled) : after.Settled := by
  rcases settled with linking | isOpen
  · exact Or.inl ((congrArg Prod.fst same).trans linking)
  · exact Or.inr (isOpen.of_linkage same)

end Session

namespace L2capChannelInfo

variable {info : L2capChannelInfo}

theorem isComplete_iff : info.isComplete = true ↔
    info.valid = true ∧ info.remoteCid ≠ l2capNullCid ∧ info.remoteMtu ≠ 0 ∧
      info.state = .complete := by
  simp only [isComplete, isAccepted, isRemoteConfigured, Bool.and_eq_true, decide_eq_true_eq]
  tauto

theorem isComplete_remoteCid (complete : info.isComplete = true) {cid : UInt16}
    (some : cid ≠ l2capNullCid) : { info with remoteCid := cid }.isComplete = true := by
  rw [isComplete_iff] at complete ⊢
  exact ⟨complete.1, some, complete.2.2⟩

theorem isComplete_remoteMtu (complete : info.isComplete = true) {mtu : UInt16} (some : mtu ≠ 0) :
    { info with remoteMtu := mtu }.isComplete = true := by
  rw [isComplete_iff] at complete ⊢
  exact ⟨complete.1, complete.2.1, some, complete.2.2.2⟩

theorem isComplete_state (complete : info.isComplete = true) :
    { info with state := .complete }.isComplete = true := by
  rw [isComplete_iff] at complete ⊢
  exact ⟨complete.1, complete.2.1, complete.2.2.1, rfl⟩

end L2capChannelInfo

def Session.IsHidCid (wiimote : Session) (cid : UInt16) : Prop :=
  wiimote.getChannelInfo cid = some .hidCntl ∨ wiimote.getChannelInfo cid = some .hidIntr

theorem Session.IsHidCid.of_ne {wiimote : Session} {cid : UInt16} {chn : Channel}
    (found : wiimote.getChannelInfo cid = some chn) (hid : chn ≠ .sdp) : wiimote.IsHidCid cid := by
  cases chn with
  | sdp => exact absurd rfl hid
  | hidCntl => exact Or.inl found
  | hidIntr => exact Or.inr found

/-- The command disconnects a HID channel, or takes its CID or its MTU away. -/
def Breaks (wiimote : Session) (payload : List UInt8) (size : UInt16) : Command → Prop
  | .connectRsp dcid scid result _ =>
      connectRspFails dcid scid result = false ∧ dcid = l2capNullCid ∧ wiimote.IsHidCid scid
  | .configReq dcid _ => receivedMtu payload size = .ok 0 ∧ wiimote.IsHidCid dcid
  | .disconnectReq dcid _ => wiimote.IsHidCid dcid
  | .configRsp _ _ | .other => False

/-- No command breaks a HID channel once the link is set up. -/
def keepsChannels (s : World) : Call → Prop
  | .command w code _ payload size =>
      (s.core.links w).basebandState = .complete → (s.periphery.sessions w).aclState = .inactive →
        ∀ command, commandOf code payload = .ok command →
          ¬ Breaks (s.periphery.sessions w) payload size command
  | _ => True

def AllSettled (s : World) : Prop :=
  ∀ w, (s.core.links w).basebandState = .complete → (s.periphery.sessions w).Settled

theorem Aloof.settled {s t : World} (aloof : Aloof s t) (settled : AllSettled s) :
    AllSettled t := by
  intro w complete
  rw [aloof.sessions]
  exact settled w (aloof.complete w complete)

theorem CommandDeeds.settled {egc : Platform} {dev : Device} {a b : Air} {ident : UInt8}
    {payload : List UInt8} {size : UInt16} {command : Command} {deeds : List Deed}
    (shape : CommandDeeds (a.sessions dev.self) ident payload size command deeds)
    (path : Path (Air.Enabled dev) (Air.act egc dev) a deeds b)
    (settled : (a.sessions dev.self).Settled)
    (unbroken : (a.sessions dev.self).aclState = .inactive →
      ¬ Breaks (a.sessions dev.self) payload size command) :
    (b.sessions dev.self).Settled := by
  have single {deed : Deed} {chn : Channel} {info : L2capChannelInfo}
      (path : Path (Air.Enabled dev) (Air.act egc dev) a [deed] b)
      (target : deed.target dev.self = dev.self)
      (session : deed.session egc (a.sessions dev.self) =
        (a.sessions dev.self).setChannel chn info)
      (complete : (a.sessions dev.self).Open → (a.sessions dev.self).aclState = .inactive →
        chn ≠ .sdp → info.isComplete = true) :
      (b.sessions dev.self).Settled := by
    have after : b.sessions dev.self = (a.sessions dev.self).setChannel chn info := by
      have last : b = a.act egc dev deed := path.2
      rw [last]
      simp only [Air.act, target, session, Function.update_self]
    rw [after]
    rcases acl : (a.sessions dev.self).aclState with _ | _
    · rcases settled with linking | isOpen
      · rw [acl] at linking
        cases linking
      · exact Or.inr (isOpen.setChannel (complete isOpen acl))
    · exact Or.inl ((Session.setChannel_aclState _ _ _).trans acl)
  cases shape with
  | connectRsp works found =>
      apply single path rfl rfl
      intro isOpen acl hid
      refine L2capChannelInfo.isComplete_remoteCid (isOpen _ hid) ?_
      intro null
      exact unbroken acl ⟨works, null, .of_ne found hid⟩
  | configReq found read =>
      apply single path rfl rfl
      intro isOpen acl hid
      refine L2capChannelInfo.isComplete_remoteMtu (isOpen _ hid) ?_
      intro none
      exact unbroken acl ⟨none ▸ read, .of_ne found hid⟩
  | configRsp found =>
      apply single path rfl rfl
      intro isOpen acl hid
      exact L2capChannelInfo.isComplete_state (isOpen _ hid)
  | disconnectReq found =>
      apply single path rfl rfl
      intro isOpen acl hid
      exact absurd (Session.IsHidCid.of_ne found hid) (unbroken acl)

theorem Device.LinkingDeeds.settled {egc : Platform} {dev : Device} {a b : Air}
    {deeds : List Deed} (shape : Device.LinkingDeeds (a.sessions dev.self) deeds)
    (path : Path (Air.Enabled dev) (Air.act egc dev) a deeds b)
    (linking : (a.sessions dev.self).aclState = .linking) : (b.sessions dev.self).Settled := by
  have requests (deed : Deed) (kind : (∃ chn psm localCid, deed = .request chn psm localCid) ∨
      ∃ chn placed, deed = .configure chn placed) (c : Air)
      (still : (c.sessions dev.self).aclState = .linking) :
      ((c.act egc dev deed).sessions dev.self).aclState = .linking := by
    rcases kind with ⟨chn, psm, localCid, rfl⟩ | ⟨chn, placed, rfl⟩
    · simp only [Air.act, Deed.target, Function.update_self, Deed.session,
        Session.setChannel_aclState, still]
    · cases placed <;>
        simp [Air.act, Deed.target, Deed.session, Session.setChannel_aclState, still]
  have setup (kind : ∀ deed ∈ deeds, (∃ chn psm localCid, deed = .request chn psm localCid) ∨
      ∃ chn placed, deed = .configure chn placed) : (b.sessions dev.self).Settled := by
    left
    apply path.kept (fun c => (c.sessions dev.self).aclState = .linking) linking
    intro c deed member still _
    exact requests deed (kind deed member) c still
  cases shape with
  | requestCntl invalid configures =>
      apply setup
      intro deed member
      rcases List.mem_cons.mp member with rfl | member
      · exact Or.inl ⟨_, _, _, rfl⟩
      · exact Or.inr (configures deed member)
  | requestIntr complete invalid configures =>
      apply setup
      intro deed member
      rcases List.mem_cons.mp member with rfl | member
      · exact Or.inl ⟨_, _, _, rfl⟩
      · exact Or.inr (configures deed member)
  | finish cntl intr =>
      have last : b = a.act egc dev .finish := path.2
      rw [last]
      right
      intro chn hid
      simp only [Air.act, Deed.target, Deed.session, Function.update_self]
      cases chn with
      | sdp => exact absurd rfl hid
      | hidCntl => exact cntl
      | hidIntr => exact intr
  | wait configures incomplete =>
      apply setup
      intro deed member
      exact Or.inr (configures deed member)

theorem Effect.settled {s t : World} {c : Call} (effect : Effect s c t)
    (keeps : keepsChannels s c) (settled : AllSettled s) : AllSettled t := by
  -- The deeds of one fake Wiimote leave the link of the other alone.
  have others {w v : WiimoteId} {deeds : List Deed} {q : Periphery}
      (performed : Device.Performs ⟨s.core, w⟩ s.periphery deeds q)
      (own : (s.core.links w).basebandState = .complete → (q.sessions w).Settled)
      (complete : (s.core.links v).basebandState = .complete) : (q.sessions v).Settled := by
    by_cases same : v = w
    · subst same
      exact own complete
    · exact (settled v complete).of_linkage (performed.linkage (Or.inr same))
  cases effect with
  | aloof aloof => exact aloof.settled settled
  | plug free => exact settled
  | @assign w d inactive found =>
      intro v complete
      by_cases same : v = w
      · subst same
        simp [World.assigned] at complete
      · rw [s.assigned_link_other d same] at complete
        rw [s.assigned_session_other d same]
        exact settled v complete
  | @accept data w s1 t before after =>
      apply after.settled
      have first := before.settled settled
      intro v complete
      by_cases same : v = w
      · subst same
        rw [s1.accepted_session_same]
        exact Or.inl rfl
      · rw [s1.accepted_link_other same] at complete
        rw [s1.accepted_session_other same]
        exact first v complete
  | @tick w deeds q active baseband performed shape =>
      intro v complete
      apply others performed _ complete
      intro connected
      split at shape
      · rename_i linking
        exact shape.settled performed.path linking
      · exact (settled w connected).of_linkage (performed.linkage (Or.inl shape.unlinked))
  | @command w code ident payload size command deeds q read shape performed =>
      intro v complete
      apply others performed _ complete
      intro connected
      exact shape.settled performed.path (settled w connected) fun acl =>
        keeps connected acl command read
  | @output w dcid length payload deeds q shape performed =>
      intro v complete
      apply others performed _ complete
      intro connected
      apply (settled w connected).of_linkage (performed.linkage (Or.inl _))
      rcases shape with rfl | shape
      · exact fun deed member => absurd member List.not_mem_nil
      · exact shape.unlinked

theorem CallRun.settled {env : Environment} {s : World} (reached : CallRun env keepsChannels s) :
    AllSettled s := by
  apply reached.invariant AllSettled
  · intro w complete
    cases complete
  · intro s t c settled ok run
    exact (callStep_effect run).settled ok.2 settled

def IsRequest (handle : UInt16) (reply : Reply) : Prop :=
  ∃ code ident payload, (code = l2capConnectReq ∨ code = l2capConfigReq) ∧
    reply.data = signalPacket handle code ident payload

def IsReport (handle : UInt16) (wiimote : Session) (reply : Reply) : Prop :=
  ∃ reportId body, reply.data = inputReportPacket handle wiimote reportId body

theorem Device.LinkingDeeds.requests {dev : Device} {p q : Periphery} {deeds : List Deed}
    {wiimote : Session} (shape : Device.LinkingDeeds wiimote deeds)
    (performed : dev.Performs p deeds q) :
    ∀ reply ∈ emitted (Air.act p.platform dev) (Air.emits p.platform dev) p.air deeds,
      IsRequest dev.conHandle reply := by
  apply performed.path.emitted_all (fun _ => True) (IsRequest dev.conHandle) trivial
  · intros
    trivial
  · intro a deed member _ _ reply sent
    unfold Air.emits at sent
    split at sent
    · rcases shape.kinds deed member with ⟨chn, psm, localCid, rfl⟩ | ⟨chn, placed, rfl⟩ | rfl
      · rw [List.mem_singleton.mp sent]
        exact ⟨_, _, _, Or.inl rfl, rfl⟩
      · rw [List.mem_singleton.mp sent]
        exact ⟨_, _, _, Or.inr rfl, rfl⟩
      · cases sent
    · cases sent

theorem Device.ReportDeeds.reports {dev : Device} {p q : Periphery} {deeds : List Deed}
    {wiimote : Session} (shape : Device.ReportDeeds wiimote deeds)
    (performed : dev.Performs p deeds q) :
    ∀ reply ∈ emitted (Air.act p.platform dev) (Air.emits p.platform dev) p.air deeds,
      IsReport dev.conHandle (p.sessions dev.self) reply := by
  apply performed.path.emitted_all
    (fun a => (a.sessions dev.self).linkage = (p.sessions dev.self).linkage)
    (IsReport dev.conHandle (p.sessions dev.self)) rfl
  · intro a deed member same _
    exact (Air.act_linkage (Or.inl (shape.unlinked deed member))).trans same
  · intro a deed member same _ reply sent
    unfold Air.emits at sent
    split at sent
    · have kinds : (∃ placed, deed = .chunk placed) ∨
          (∃ padding placed, deed = .change padding placed) ∨
          (∃ placed, deed = .report placed) ∨
          deed.packet p.platform dev.conHandle (a.sessions (deed.target dev.self)) = none := by
        cases shape with
        | chunk => exact Or.inl ⟨_, List.mem_singleton.mp member⟩
        | change => exact Or.inr (Or.inl ⟨_, _, List.mem_singleton.mp member⟩)
        | switch =>
            rw [List.mem_singleton.mp member]
            exact Or.inr (Or.inr (Or.inr rfl))
        | feed =>
            rw [List.mem_singleton.mp member]
            exact Or.inr (Or.inr (Or.inr rfl))
        | report =>
            rcases List.mem_cons.mp member with rfl | member
            · exact Or.inr (Or.inr (Or.inr rfl))
            · exact Or.inr (Or.inr (Or.inl ⟨_, List.mem_singleton.mp member⟩))
      rcases kinds with ⟨placed, rfl⟩ | ⟨padding, placed, rfl⟩ | ⟨placed, rfl⟩ | silent
      · rw [List.mem_singleton.mp sent]
        exact ⟨_, _, inputReportPacket_congr same _ _⟩
      · rw [List.mem_singleton.mp sent]
        exact ⟨_, _, inputReportPacket_congr same _ _⟩
      · rw [List.mem_singleton.mp sent]
        exact ⟨_, _, inputReportPacket_congr same _ _⟩
      · rw [silent] at sent
        cases sent
    · cases sent

/-- In runs without such commands the HID channels of a connection that is no longer being set up
are complete, and what a tick sends is a request, or a report on a complete interrupt channel. -/
theorem reports_on_open_channel {env : Environment} {s : World}
    (reached : CallRun env keepsChannels s) (w : WiimoteId) :
    ((s.core.links w).basebandState = .complete →
      (s.periphery.sessions w).aclState = .inactive →
      (s.periphery.sessions w).psmHidCntlChn.isComplete = true ∧
        (s.periphery.sessions w).psmHidIntrChn.isComplete = true) ∧
    ∀ t, callStep s (.tick w) = .ok t → ∃ replies,
      t.periphery.bulkIn.produced = s.periphery.bulkIn.produced ++ replies ∧
        ∀ reply ∈ replies, IsRequest (s.core.links w).hciConHandle reply ∨
          ((s.periphery.sessions w).psmHidIntrChn.isComplete = true ∧
            IsReport (s.core.links w).hciConHandle (s.periphery.sessions w) reply) := by
  have isOpen (complete : (s.core.links w).basebandState = .complete)
      (acl : (s.periphery.sessions w).aclState ≠ .linking) : (s.periphery.sessions w).Open := by
    rcases reached.settled w complete with linking | isOpen
    · exact absurd linking acl
    · exact isOpen
  constructor
  · intro complete acl
    have channels := isOpen complete (by rw [acl]; decide)
    exact ⟨channels .hidCntl (by decide), channels .hidIntr (by decide)⟩
  · intro t run
    have run := callStep_ok.mp run
    by_cases connected : (s.core.links w).active = true ∧
      (s.core.links w).basebandState = .complete
    · obtain ⟨deeds, q, rfl, performed, shape⟩ :=
        tickActive_performs connected.1 connected.2 run
      refine ⟨_, performed.produced, ?_⟩
      intro reply sent
      split at shape
      · exact Or.inl (shape.requests performed reply sent)
      · rename_i acl
        exact Or.inr ⟨isOpen connected.2 acl .hidIntr (by decide),
          shape.reports performed reply sent⟩
    · refine ⟨[], ?_, fun reply member => absurd member List.not_mem_nil⟩
      rw [tickActive_bulkIn connected run, List.append_nil]

def disconnectReqCommand (dcid scid : UInt16) : List UInt8 :=
  l2capCommand l2capDisconnectReq 1 (disconnectPayload dcid scid)

def pressedPad : Gamepad := ⟨0x4, fun _ => 0, 0, 0, 0, 0, 0⟩

/-- The host closes the interrupt channel, and the next input is still reported on it. -/
theorem report_on_closed_channel :
    ∃ s t : World, Run .gamepad anyInput s ∧
      (s.core.links 0).basebandState = .complete ∧
      (s.periphery.sessions 0).aclState = .inactive ∧
      (s.periphery.sessions 0).psmHidIntrChn.isComplete = false ∧
      step s (.timer [.input 1 pressedPad]) = .ok t ∧
      t.periphery.bulkIn.produced = s.periphery.bulkIn.produced ++
        [let data := inputReportPacket 0 (s.periphery.sessions 0) inputReportIdBtn [0x00, 0x08]
         ⟨data.length, data⟩] := by
  obtain ⟨s, reached, check⟩ : ∃ s, Run .gamepad anyInput s ∧
      decide ((s.core.links 0).basebandState = .complete ∧
        (s.periphery.sessions 0).aclState = .inactive ∧
        (s.periphery.sessions 0).psmHidIntrChn.isComplete = false ∧
        (step s (.timer [.input 1 pressedPad])).toOption.any (fun t =>
          t.periphery.bulkIn.produced = s.periphery.bulkIn.produced ++
            [let data := inputReportPacket 0 (s.periphery.sessions 0) inputReportIdBtn [0x00, 0x08]
             ⟨data.length, data⟩]) = true) = true :=
    exists_of_execute (hostOpens ++ [signalling (disconnectReqCommand 0x41 0x61)])
      (by decide +kernel)
  obtain ⟨complete, acl, closed, stepped⟩ := of_decide_eq_true check
  obtain ⟨t, run, sent⟩ := exists_of_step stepped
  exact ⟨s, t, reached, complete, acl, closed, run, of_decide_eq_true sent⟩

instance {α : Type} (result : Except Fault α) (p : α → Prop) [DecidablePred p] :
    Decidable (∀ a, result = .ok a → p a) :=
  match result with
  | .ok a => decidable_of_iff (p a) (by simp)
  | .error _ => isTrue (by simp)

instance (wiimote : Session) (cid : UInt16) : Decidable (wiimote.IsHidCid cid) :=
  inferInstanceAs (Decidable (_ ∨ _))

instance (wiimote : Session) (payload : List UInt8) (size : UInt16) (command : Command) :
    Decidable (Breaks wiimote payload size command) :=
  match command with
  | .connectRsp _ _ _ _ => inferInstanceAs (Decidable (_ ∧ _ ∧ _))
  | .configReq _ _ => inferInstanceAs (Decidable (_ ∧ _))
  | .disconnectReq dcid _ => inferInstanceAs (Decidable (wiimote.IsHidCid dcid))
  | .configRsp _ _ | .other => isFalse id

instance (s : World) (c : Call) : Decidable (keepsChannels s c) :=
  match c with
  | .command w code _ payload size =>
      inferInstanceAs (Decidable (_ → _ → ∀ command, commandOf code payload = .ok command →
        ¬ Breaks (s.periphery.sessions w) payload size command))
  | .hciCommand _ | .count _ | .channelData _ _ _ _ | .bufferRequest _ _ | .handDownReply _ _ _
  | .egcEvent _ | .tickSlots | .assign _ | .tick _ | .completedPackets => isTrue trivial

instance (s : World) (c : Call) : Decidable (Made s c) :=
  match c with
  | .count _ | .channelData _ _ _ _ => inferInstanceAs (Decidable (_ = true))
  | .hciCommand _ | .command _ _ _ _ _ | .bufferRequest _ _ | .handDownReply _ _ _
  | .egcEvent _ | .tickSlots | .assign _ | .tick _ | .completedPackets => isTrue trivial

def timerCalls (events : List EgcEvent) : List Call :=
  events.map .egcEvent ++ [.tickSlots, .assign 0, .assign 1, .tick 0, .tick 1, .completedPackets]

def commandCalls (command : List UInt8) : List Call :=
  let payload := command.drop l2capCmdHdrSize
  [.count 0, .command 0 (command.getD 0 0) (command.getD 1 0) payload
    (UInt16.ofNat payload.length)]

def openCalls : List Call :=
  [.hciCommand [0x1A, 0x0C, 1, hciPageScanEnable]] ++ timerCalls [.added (fullDevice 1)] ++
    [.hciCommand ([0x09, 0x04, 7] ++ (fakeWiimoteBdaddr 0).val ++ [0])] ++
    timerCalls [] ++ commandCalls (connectRspCommand 0x60 0x40) ++ timerCalls [] ++
    commandCalls (configReqCommand 0x40 185) ++ commandCalls (configRspCommand 0x40) ++
    timerCalls [] ++ commandCalls (connectRspCommand 0x61 0x41) ++ timerCalls [] ++
    commandCalls (configReqCommand 0x41 185) ++ commandCalls (configRspCommand 0x41) ++
    timerCalls []

/-- The connection of `hostOpens`, call by call. -/
theorem reports_on_open_channel_connected :
    ∃ s : World, (s.core.links 0).basebandState = .complete ∧
      (s.periphery.sessions 0).aclState = .inactive ∧
      (s.periphery.sessions 0).psmHidCntlChn.isComplete = true ∧
      (s.periphery.sessions 0).psmHidIntrChn.isComplete = true := by
  obtain ⟨s, reached, check⟩ : ∃ s, CallRun .gamepad keepsChannels s ∧
      decide ((s.core.links 0).basebandState = .complete ∧
        (s.periphery.sessions 0).aclState = .inactive) = true :=
    exists_of_execute openCalls (by decide +kernel)
  obtain ⟨complete, acl⟩ := of_decide_eq_true check
  exact ⟨s, complete, acl, (reports_on_open_channel reached 0).1 complete acl⟩

end Fakemote
