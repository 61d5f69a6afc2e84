import Fakemote.OpenChannels
import Fakemote.HotPlug

/-! How the HID channels are set up: which requests the fake Wiimote sends, in which order, and
when the link is no longer linking. -/

namespace Fakemote

open Bytes Program Transition Labelled History

inductive ChannelRequest
  | connect (psm localCid : UInt16)
  | config (remoteCid : UInt16)
  deriving DecidableEq, Repr

def channelRequest : List UInt8 → Option ChannelRequest
  | _ :: _ :: _ :: _ :: _ :: _ :: cid0 :: cid1 :: code :: _ :: _ :: _ :: a :: b :: c :: d :: _ =>
      if le16toh (word16 cid0 cid1) ≠ l2capSignalCid then none
      else if code = l2capConnectReq then
        some (.connect (le16toh (word16 a b)) (le16toh (word16 c d)))
      else if code = l2capConfigReq then some (.config (le16toh (word16 a b)))
      else none
  | _ => none

def requestsOf (sent : List Reply) : List ChannelRequest :=
  sent.filterMap fun reply => channelRequest reply.data

def requestsIn (events : List Exchange) : List ChannelRequest :=
  events.flatMap fun e => requestsOf e.sent

def Command.answer : Command → Option (UInt16 × UInt16)
  | .connectRsp dcid scid _ _ => some (dcid, scid)
  | _ => none

def Exchange.answer (e : Exchange) : Option (UInt16 × UInt16) :=
  match e.turn with
  | .command code _ payload _ => (commandOf code payload).toOption.bind Command.answer
  | _ => none

def answers (events : List Exchange) : List (UInt16 × UInt16) := events.filterMap Exchange.answer

def ChannelRequest.asks (scid : UInt16) : ChannelRequest → Bool
  | .connect _ localCid => localCid = scid
  | .config _ => false

/-- A host that answers every Connect Request once at most and with a CID, configures a channel
after that, answers a Config Request after it came, and does not disconnect. -/
def hostMaySend (events : List Exchange) (payload : List UInt8) (size : UInt16) : Command → Prop
  | .connectRsp dcid scid result _ =>
      connectRspFails dcid scid result = false ∧ dcid ≠ l2capNullCid ∧
        ((answers events).countP fun answer => answer.2 = scid) <
          (requestsIn events).countP (ChannelRequest.asks scid)
  | .configReq dcid _ =>
      (∃ answer ∈ answers events, answer.2 = dcid) ∧ receivedMtu payload size ≠ .ok 0
  | .configRsp scid result =>
      result = l2capSuccess ∧
        ∃ answer ∈ answers events, answer.2 = scid ∧ .config answer.1 ∈ requestsIn events
  | .disconnectReq _ _ => False
  | .other => True

def hostSetsUp (events : List Exchange) (_ : World) (e : Exchange) : Prop :=
  match e.turn with
  | .command code _ payload size =>
      ∀ command, commandOf code payload = .ok command → hostMaySend events payload size command
  | _ => True

/-- The requests of a run so far: for each channel a Connect Request, then a Config Request to the
CID of the host's answer, the control channel first. -/
inductive SetupOrder (answers : List (UInt16 × UInt16)) : List ChannelRequest → Prop
  | none : SetupOrder answers []
  | cntl {cid : UInt16} : SetupOrder answers [.connect l2capPsmHidCntl cid]
  | cntlConfig {cid remote : UInt16} : (remote, cid) ∈ answers →
      SetupOrder answers [.connect l2capPsmHidCntl cid, .config remote]
  | intr {cid remote cid' : UInt16} : (remote, cid) ∈ answers →
      SetupOrder answers
        [.connect l2capPsmHidCntl cid, .config remote, .connect l2capPsmHidIntr cid']
  | intrConfig {cid remote cid' remote' : UInt16} : (remote, cid) ∈ answers →
      (remote', cid') ∈ answers →
      SetupOrder answers
        [.connect l2capPsmHidCntl cid, .config remote, .connect l2capPsmHidIntr cid',
          .config remote']

theorem channelRequest_none {data : List UInt8} {code : UInt8} (found : data[8]? = some code)
    (connect : code ≠ l2capConnectReq) (config : code ≠ l2capConfigReq) :
    channelRequest data = none := by
  unfold channelRequest
  split
  · cases found
    rw [if_neg connect, if_neg config]
    exact ite_self _
  · rfl

theorem channelRequest_connect (handle psm localCid : UInt16) :
    channelRequest (signalPacket handle l2capConnectReq l2capConnectReq
      (connectReqPayload psm localCid)) = some (.connect psm localCid) := by
  have read : channelRequest (signalPacket handle l2capConnectReq l2capConnectReq
      (connectReqPayload psm localCid)) = some (.connect
        (le16toh (word16 (highByte (htole16 psm)) (lowByte (htole16 psm))))
        (le16toh (word16 (highByte (htole16 localCid)) (lowByte (htole16 localCid))))) := rfl
  rw [read, word16_bytes, word16_bytes, le16toh_htole16, le16toh_htole16]

theorem channelRequest_config (handle remoteCid : UInt16) :
    channelRequest (signalPacket handle l2capConfigReq l2capConfigReq
      (configReqPayload remoteCid wiiRequestMtu l2capFlushTimoDefault)) =
        some (.config remoteCid) := by
  have read : channelRequest (signalPacket handle l2capConfigReq l2capConfigReq
      (configReqPayload remoteCid wiiRequestMtu l2capFlushTimoDefault)) = some (.config
        (le16toh (word16 (highByte (htole16 remoteCid)) (lowByte (htole16 remoteCid))))) := rfl
  rw [read, word16_bytes, le16toh_htole16]

theorem Deed.packet_request {egc : Platform} {handle : UInt16} {wiimote : Session} {deed : Deed}
    {data : List UInt8} (sent : deed.packet egc handle wiimote = some data)
    (asks : ∀ chn psm localCid, deed ≠ .request chn psm localCid)
    (configures : ∀ chn placed, deed ≠ .configure chn placed) : channelRequest data = none := by
  cases deed with
  | request chn psm localCid => exact absurd rfl (asks chn psm localCid)
  | configure chn placed => exact absurd rfl (configures chn placed)
  | recordMtu chn mtu ident options placed =>
      cases sent
      exact channelRequest_none rfl (by decide) (by decide)
  | close chn ident dcid scid placed =>
      cases sent
      exact channelRequest_none rfl (by decide) (by decide)
  | chunk placed =>
      cases sent
      exact channelRequest_none rfl (by decide) (by decide)
  | write request placed =>
      cases sent
      exact channelRequest_none rfl (by decide) (by decide)
  | ack rptId errorCode placed =>
      cases sent
      exact channelRequest_none rfl (by decide) (by decide)
  | status padding placed =>
      cases sent
      exact channelRequest_none rfl (by decide) (by decide)
  | change padding placed =>
      cases sent
      exact channelRequest_none rfl (by decide) (by decide)
  | report placed =>
      cases sent
      exact channelRequest_none rfl (by decide) (by decide)
  | _ => cases sent

/-- The remote CID of a channel, if it has one, is one that the host gave for the channel. -/
def L2capChannelInfo.Answered (answers : List (UInt16 × UInt16)) (info : L2capChannelInfo) :
    Prop :=
  info.remoteCid = l2capNullCid ∨ (info.remoteCid, info.localCid) ∈ answers

inductive Stage (answers : List (UInt16 × UInt16)) (wiimote : Session) :
    List ChannelRequest → Prop
  | none : wiimote.psmHidCntlChn.valid = false → wiimote.psmHidIntrChn.valid = false →
      Stage answers wiimote []
  | cntl : wiimote.psmHidCntlChn.valid = true → wiimote.psmHidCntlChn.state = .inactive →
      wiimote.psmHidCntlChn.Answered answers → wiimote.psmHidIntrChn.valid = false →
      Stage answers wiimote [.connect l2capPsmHidCntl wiimote.psmHidCntlChn.localCid]
  | cntlConfig {cid remote : UInt16} : (remote, cid) ∈ answers →
      wiimote.psmHidCntlChn.valid = true → wiimote.psmHidCntlChn.state ≠ .inactive →
      wiimote.psmHidIntrChn.valid = false →
      Stage answers wiimote [.connect l2capPsmHidCntl cid, .config remote]
  | intr {cid remote : UInt16} : (remote, cid) ∈ answers →
      wiimote.psmHidCntlChn.valid = true → wiimote.psmHidCntlChn.state ≠ .inactive →
      wiimote.psmHidIntrChn.valid = true → wiimote.psmHidIntrChn.Answered answers →
      Stage answers wiimote [.connect l2capPsmHidCntl cid, .config remote,
        .connect l2capPsmHidIntr wiimote.psmHidIntrChn.localCid]
  | intrConfig {cid remote cid' remote' : UInt16} : (remote, cid) ∈ answers →
      (remote', cid') ∈ answers →
      wiimote.psmHidCntlChn.valid = true → wiimote.psmHidCntlChn.state ≠ .inactive →
      wiimote.psmHidIntrChn.valid = true → wiimote.psmHidIntrChn.state ≠ .inactive →
      Stage answers wiimote [.connect l2capPsmHidCntl cid, .config remote,
        .connect l2capPsmHidIntr cid', .config remote']

namespace Stage

variable {known : List (UInt16 × UInt16)} {wiimote : Session} {requests : List ChannelRequest}

theorem order (stage : Stage known wiimote requests) : SetupOrder known requests := by
  cases stage with
  | none => exact .none
  | cntl => exact .cntl
  | cntlConfig answered => exact .cntlConfig answered
  | intr answered => exact .intr answered
  | intrConfig answered answered' => exact .intrConfig answered answered'

theorem more {later : List (UInt16 × UInt16)} (stage : Stage known wiimote requests)
    (kept : ∀ answer ∈ known, answer ∈ later) : Stage later wiimote requests := by
  have answered {info : L2capChannelInfo} (before : info.Answered known) : info.Answered later :=
    before.imp_right (kept _)
  cases stage with
  | none cntl intr => exact .none cntl intr
  | cntl valid state before intr => exact .cntl valid state (answered before) intr
  | cntlConfig given valid state intr => exact .cntlConfig (kept _ given) valid state intr
  | intr given valid state valid' before =>
      exact .intr (kept _ given) valid state valid' (answered before)
  | intrConfig given given' valid state valid' state' =>
      exact .intrConfig (kept _ given) (kept _ given') valid state valid' state'

theorem of_linkage {after : Session} (stage : Stage known wiimote requests)
    (same : after.linkage = wiimote.linkage) : Stage known after requests := by
  have cntl : after.psmHidCntlChn = wiimote.psmHidCntlChn :=
    congrArg (fun linkage => linkage.2.2.1) same
  have intr : after.psmHidIntrChn = wiimote.psmHidIntrChn :=
    congrArg (fun linkage => linkage.2.2.2) same
  cases stage with
  | none cntl' intr' => exact .none (cntl ▸ cntl') (intr ▸ intr')
  | cntl valid state before intr' =>
      rw [← cntl] at valid state before ⊢
      exact .cntl valid state before (intr ▸ intr')
  | cntlConfig given valid state intr' =>
      exact .cntlConfig given (cntl ▸ valid) (cntl ▸ state) (intr ▸ intr')
  | intr given valid state valid' before =>
      rw [← intr] at valid' before ⊢
      exact .intr given (cntl ▸ valid) (cntl ▸ state) valid' before
  | intrConfig given given' valid state valid' state' =>
      exact .intrConfig given given' (cntl ▸ valid) (cntl ▸ state) (intr ▸ valid') (intr ▸ state')

theorem requestCntl (stage : Stage known wiimote requests)
    (invalid : wiimote.psmHidCntlChn.valid = false) (cid : UInt16) :
    Stage known (wiimote.setChannel .hidCntl (.setup l2capPsmHidCntl cid))
      (requests ++ [.connect l2capPsmHidCntl cid]) := by
  cases stage with
  | none cntl intr => exact .cntl rfl rfl (Or.inl rfl) intr
  | cntl valid => cases invalid.symm.trans valid
  | cntlConfig given valid => cases invalid.symm.trans valid
  | intr given valid => cases invalid.symm.trans valid
  | intrConfig given given' valid => cases invalid.symm.trans valid

theorem requestIntr (stage : Stage known wiimote requests)
    (complete : wiimote.psmHidCntlChn.isComplete = true)
    (invalid : wiimote.psmHidIntrChn.valid = false) (cid : UInt16) :
    Stage known (wiimote.setChannel .hidIntr (.setup l2capPsmHidIntr cid))
      (requests ++ [.connect l2capPsmHidIntr cid]) := by
  obtain ⟨isValid, -, -, state⟩ := L2capChannelInfo.isComplete_iff.mp complete
  cases stage with
  | none cntl => cases cntl.symm.trans isValid
  | cntl valid inactive => cases inactive.symm.trans state
  | cntlConfig given valid active intr => exact .intr given valid active rfl (Or.inl rfl)
  | intr given valid active valid' => cases invalid.symm.trans valid'
  | intrConfig given given' valid active valid' => cases invalid.symm.trans valid'

theorem configure (stage : Stage known wiimote requests)
    (sdp : wiimote.psmSdpChn.valid = false) {chn : Channel}
    (accepted : (wiimote.channel chn).isAccepted = true)
    (inactive : (wiimote.channel chn).state = .inactive) :
    ((wiimote.channel chn).remoteCid, (wiimote.channel chn).localCid) ∈ known ∧
      Stage known (wiimote.setChannel chn { wiimote.channel chn with state := .configPend })
        (requests ++ [.config (wiimote.channel chn).remoteCid]) := by
  have pending : L2capChannelState.configPend ≠ .inactive := by decide
  simp only [L2capChannelInfo.isAccepted, Bool.and_eq_true, decide_eq_true_eq] at accepted
  obtain ⟨isValid, some⟩ := accepted
  cases chn with
  | sdp => cases sdp.symm.trans isValid
  | hidCntl =>
      cases stage with
      | none invalid => cases invalid.symm.trans isValid
      | cntl valid state answered intr =>
          have given := answered.resolve_left some
          exact ⟨given, .cntlConfig given valid pending intr⟩
      | cntlConfig given valid active => exact absurd inactive active
      | intr given valid active => exact absurd inactive active
      | intrConfig given given' valid active => exact absurd inactive active
  | hidIntr =>
      cases stage with
      | none cntl invalid => cases invalid.symm.trans isValid
      | cntl valid state answered invalid => cases invalid.symm.trans isValid
      | cntlConfig given valid active invalid => cases invalid.symm.trans isValid
      | intr given valid active valid' answered =>
          have given' := answered.resolve_left some
          exact ⟨given', .intrConfig given given' valid active valid' pending⟩
      | intrConfig given given' valid active valid' active' => exact absurd inactive active'

theorem recordCid (stage : Stage known wiimote requests)
    (sdp : wiimote.psmSdpChn.valid = false) {chn : Channel} {dcid scid : UInt16}
    (found : wiimote.getChannelInfo scid = some chn) (answered : (dcid, scid) ∈ known) :
    Stage known (wiimote.setChannel chn { wiimote.channel chn with remoteCid := dcid })
      requests := by
  obtain ⟨isValid, isLocal⟩ := Device.getChannelInfo_some found
  rw [isLocal] at answered
  cases chn with
  | sdp => cases sdp.symm.trans isValid
  | hidCntl =>
      cases stage with
      | none invalid => cases invalid.symm.trans isValid
      | cntl valid state before intr => exact .cntl valid state (Or.inr answered) intr
      | cntlConfig given valid active intr => exact .cntlConfig given valid active intr
      | intr given valid active valid' before => exact .intr given valid active valid' before
      | intrConfig given given' valid active valid' active' =>
          exact .intrConfig given given' valid active valid' active'
  | hidIntr =>
      cases stage with
      | none cntl invalid => cases invalid.symm.trans isValid
      | cntl valid state before invalid => cases invalid.symm.trans isValid
      | cntlConfig given valid active invalid => cases invalid.symm.trans isValid
      | intr given valid active valid' before =>
          exact .intr given valid active valid' (Or.inr answered)
      | intrConfig given given' valid active valid' active' =>
          exact .intrConfig given given' valid active valid' active'

theorem recordMtu (stage : Stage known wiimote requests) (chn : Channel) (mtu : UInt16) :
    Stage known (wiimote.setChannel chn { wiimote.channel chn with remoteMtu := mtu })
      requests := by
  cases stage with
  | none cntl intr => cases chn <;> exact .none cntl intr
  | cntl valid state before intr => cases chn <;> exact .cntl valid state before intr
  | cntlConfig given valid active intr => cases chn <;> exact .cntlConfig given valid active intr
  | intr given valid active valid' before =>
      cases chn <;> exact .intr given valid active valid' before
  | intrConfig given given' valid active valid' active' =>
      cases chn <;> exact .intrConfig given given' valid active valid' active'

theorem complete (stage : Stage known wiimote requests)
    (sdp : wiimote.psmSdpChn.valid = false) {chn : Channel} {scid remote : UInt16}
    (found : wiimote.getChannelInfo scid = some chn) (asked : .config remote ∈ requests) :
    Stage known (wiimote.setChannel chn { wiimote.channel chn with state := .complete })
      requests := by
  have done : L2capChannelState.complete ≠ .inactive := by decide
  obtain ⟨isValid, -⟩ := Device.getChannelInfo_some found
  cases chn with
  | sdp => cases sdp.symm.trans isValid
  | hidCntl =>
      cases stage with
      | none => cases asked
      | cntl => simp at asked
      | cntlConfig given valid active intr => exact .cntlConfig given valid done intr
      | intr given valid active valid' before => exact .intr given valid done valid' before
      | intrConfig given given' valid active valid' active' =>
          exact .intrConfig given given' valid done valid' active'
  | hidIntr =>
      cases stage with
      | none => cases asked
      | cntl => simp at asked
      | cntlConfig given valid active invalid => cases invalid.symm.trans isValid
      | intr given valid active valid' before => exact .intr given valid active valid' before
      | intrConfig given given' valid active valid' active' =>
          exact .intrConfig given given' valid active valid' done

end Stage

theorem requestsOf_append (first second : List Reply) :
    requestsOf (first ++ second) = requestsOf first ++ requestsOf second :=
  List.filterMap_append

theorem requestsIn_snoc (events : List Exchange) (e : Exchange) :
    requestsIn (events ++ [e]) = requestsIn events ++ requestsOf e.sent := by
  unfold requestsIn
  rw [List.flatMap_append, List.flatMap_singleton]

theorem answers_snoc (events : List Exchange) (e : Exchange) :
    answers (events ++ [e]) = answers events ++ e.answer.toList := by
  unfold answers
  rw [List.filterMap_append, List.filterMap_cons]
  cases e.answer <;> rfl

theorem requestsOf_quiet {sent : List Reply}
    (quiet : ∀ reply ∈ sent, channelRequest reply.data = none) : requestsOf sent = [] := by
  unfold requestsOf
  rw [List.filterMap_eq_nil_iff]
  exact quiet

theorem requestsOf_one {data : List UInt8} {request : ChannelRequest} {retval : Int}
    (carries : channelRequest data = some request) : requestsOf [⟨retval, data⟩] = [request] := by
  unfold requestsOf
  rw [List.filterMap_cons, carries, List.filterMap_nil]

theorem Air.emits_request (egc : Platform) (dev : Device) (a : Air) (chn : Channel)
    (psm localCid : UInt16) :
    requestsOf (a.emits egc dev (.request chn psm localCid)) = [.connect psm localCid] :=
  requestsOf_one (channelRequest_connect _ _ _)

theorem Air.emits_configure (egc : Platform) (dev : Device) (a : Air) (chn : Channel) :
    requestsOf (a.emits egc dev (.configure chn true)) =
      [.config ((a.sessions dev.self).channel chn).remoteCid] :=
  requestsOf_one (channelRequest_config _ _)

theorem Air.emits_quiet {egc : Platform} {dev : Device} {a : Air} {deed : Deed}
    (asks : ∀ chn psm localCid, deed ≠ .request chn psm localCid)
    (configures : ∀ chn placed, deed ≠ .configure chn placed) :
    ∀ reply ∈ a.emits egc dev deed, channelRequest reply.data = none := by
  intro reply sent
  unfold Air.emits at sent
  split at sent
  · obtain ⟨data, packet, rfl⟩ := List.mem_map.mp sent
    exact Deed.packet_request (Option.mem_toList.mp packet) asks configures
  · cases sent

theorem Device.Performs.quiet {dev : Device} {p q : Periphery} {deeds : List Deed}
    (performed : dev.Performs p deeds q)
    (quiet : ∀ deed ∈ deeds, (∀ chn psm localCid, deed ≠ .request chn psm localCid) ∧
      ∀ chn placed, deed ≠ .configure chn placed) :
    requestsOf (emitted (Air.act p.platform dev) (Air.emits p.platform dev) p.air deeds) = [] := by
  apply requestsOf_quiet
  apply performed.path.emitted_all (fun _ => True)
    (fun reply : Reply => channelRequest reply.data = none) trivial
  · intros
    trivial
  · intro a deed member _ _
    exact Air.emits_quiet (quiet deed member).1 (quiet deed member).2

theorem Stage.configures {known : List (UInt16 × UInt16)} {egc : Platform} {dev : Device}
    {a b : Air} {deeds : List Deed} {requests : List ChannelRequest}
    (stage : Stage known (a.sessions dev.self) requests)
    (sdp : (a.sessions dev.self).psmSdpChn.valid = false)
    (path : Path (Air.Enabled dev) (Air.act egc dev) a deeds b)
    (configures : Device.Configures deeds)
    (placed : ∀ deed ∈ deeds, deed.sends = true → deed.placed = true) :
    (b.sessions dev.self).psmSdpChn.valid = false ∧
      Stage known (b.sessions dev.self)
        (requests ++ requestsOf (emitted (Air.act egc dev) (Air.emits egc dev) a deeds)) := by
  induction deeds generalizing a requests with
  | nil =>
      change b = a at path
      rw [path]
      refine ⟨sdp, ?_⟩
      change Stage known (a.sessions dev.self) (requests ++ [])
      rw [List.append_nil]
      exact stage
  | cons deed deeds ih =>
      obtain ⟨chn, sent, rfl⟩ := configures deed List.mem_cons_self
      have reached : sent = true := placed _ List.mem_cons_self rfl
      subst reached
      obtain ⟨accepted, inactive⟩ := path.1
      obtain ⟨-, next⟩ := stage.configure sdp accepted inactive
      have session : (a.act egc dev (.configure chn true)).sessions dev.self =
          (a.sessions dev.self).setChannel chn
            { (a.sessions dev.self).channel chn with state := .configPend } :=
        Function.update_self _ _ _
      rw [← session] at next
      have still : ((a.act egc dev (.configure chn true)).sessions dev.self).psmSdpChn.valid =
          false := by
        rw [session]
        cases chn <;> exact sdp
      have later := ih next still path.2
        (fun deed member => configures deed (List.mem_cons_of_mem _ member))
        (fun deed member => placed deed (List.mem_cons_of_mem _ member))
      rw [emitted, requestsOf_append, Air.emits_configure, ← List.append_assoc]
      exact later

theorem Device.Performs.unlinked_quiet {dev : Device} {p q : Periphery} {deeds : List Deed}
    (performed : dev.Performs p deeds q) (unlinked : ∀ deed ∈ deeds, deed.links = false) :
    requestsOf (emitted (Air.act p.platform dev) (Air.emits p.platform dev) p.air deeds) = [] := by
  apply performed.quiet
  intro deed member
  have other := unlinked deed member
  refine ⟨?_, ?_⟩
  · intro chn psm localCid same
    rw [same] at other
    cases other
  · intro chn placed same
    rw [same] at other
    cases other

theorem CommandDeeds.quiet {wiimote : Session} {ident : UInt8} {payload : List UInt8}
    {size : UInt16} {command : Command} {deeds : List Deed}
    (shape : CommandDeeds wiimote ident payload size command deeds) :
    ∀ deed ∈ deeds, (∀ chn psm localCid, deed ≠ .request chn psm localCid) ∧
      ∀ chn placed, deed ≠ .configure chn placed := by
  intro deed member
  cases shape <;> rw [List.mem_singleton.mp member] <;> simp

theorem Stage.linking {known : List (UInt16 × UInt16)} {dev : Device} {p q : Periphery}
    {deeds : List Deed} {requests : List ChannelRequest}
    (stage : Stage known (p.sessions dev.self) requests)
    (sdp : (p.sessions dev.self).psmSdpChn.valid = false)
    (shape : Device.LinkingDeeds (p.sessions dev.self) deeds)
    (performed : dev.Performs p deeds q)
    (placed : ∀ deed ∈ deeds, deed.sends = true → deed.placed = true) :
    (q.sessions dev.self).psmSdpChn.valid = false ∧
      Stage known (q.sessions dev.self) (requests ++
        requestsOf (emitted (Air.act p.platform dev) (Air.emits p.platform dev) p.air deeds)) := by
  have path := performed.path
  have later {chn : Channel} {psm localCid : UInt16} {deeds : List Deed}
      (hid : chn ≠ .sdp) (configures : Device.Configures deeds)
      (path : Path (Air.Enabled dev) (Air.act p.platform dev) p.air
        (.request chn psm localCid :: deeds) q.air)
      (placed : ∀ deed ∈ .request chn psm localCid :: deeds,
        deed.sends = true → deed.placed = true)
      (next : Stage known ((p.sessions dev.self).setChannel chn (.setup psm localCid))
        (requests ++ [.connect psm localCid])) :
      (q.sessions dev.self).psmSdpChn.valid = false ∧
        Stage known (q.sessions dev.self) (requests ++ requestsOf (emitted
          (Air.act p.platform dev) (Air.emits p.platform dev) p.air
            (.request chn psm localCid :: deeds))) := by
    have session : (p.air.act p.platform dev (.request chn psm localCid)).sessions dev.self =
        (p.sessions dev.self).setChannel chn (.setup psm localCid) := Function.update_self _ _ _
    rw [← session] at next
    have still : ((p.air.act p.platform dev (.request chn psm localCid)).sessions
        dev.self).psmSdpChn.valid = false := by
      rw [session]
      cases chn with
      | sdp => exact absurd rfl hid
      | hidCntl => exact sdp
      | hidIntr => exact sdp
    rw [emitted, requestsOf_append, Air.emits_request, ← List.append_assoc]
    exact next.configures still path.2 configures
      fun deed member => placed deed (List.mem_cons_of_mem _ member)
  cases shape with
  | requestCntl invalid configures =>
      exact later (by decide) configures path placed (stage.requestCntl invalid _)
  | requestIntr complete invalid configures =>
      exact later (by decide) configures path placed (stage.requestIntr complete invalid _)
  | finish cntl intr =>
      have session := performed.one_session rfl
      rw [session]
      refine ⟨sdp, ?_⟩
      change Stage known _ (requests ++ [])
      rw [List.append_nil]
      cases stage with
      | none cntl intr => exact .none cntl intr
      | cntl valid state before intr => exact .cntl valid state before intr
      | cntlConfig given valid active intr => exact .cntlConfig given valid active intr
      | intr given valid active valid' before => exact .intr given valid active valid' before
      | intrConfig given given' valid active valid' active' =>
          exact .intrConfig given given' valid active valid' active'
  | wait configures incomplete => exact stage.configures sdp path configures placed

/-- A command of such a host keeps the stage; its answers are known from then on. -/
theorem Stage.command {events : List Exchange} {s : World} {w : WiimoteId} {q : Periphery}
    {code ident : UInt8} {payload : List UInt8} {size : UInt16} {command : Command}
    {deeds : List Deed} {sent : List Reply} {calls : List EgcCall}
    (stage : Stage (answers events) (s.periphery.sessions w) (requestsIn events))
    (sdp : (s.periphery.sessions w).psmSdpChn.valid = false)
    (read : commandOf code payload = .ok command)
    (shape : CommandDeeds (s.periphery.sessions w) ident payload size command deeds)
    (performed : Device.Performs ⟨s.core, w⟩ s.periphery deeds q)
    (ok : hostSetsUp events s ⟨.command code ident payload size, sent, calls⟩) :
    (q.sessions w).psmSdpChn.valid = false ∧
      Stage (answers (events ++ [⟨.command code ident payload size, sent, calls⟩]))
        (q.sessions w) (requestsIn events) := by
  have allowed : hostMaySend events payload size command := ok command read
  have kept : ∀ answer ∈ answers events,
      answer ∈ answers (events ++ [⟨.command code ident payload size, sent, calls⟩]) := by
    intro answer member
    rw [answers_snoc]
    exact List.mem_append_left _ member
  have hid {cid : UInt16} {chn : Channel} {info : L2capChannelInfo}
      (found : (s.periphery.sessions w).getChannelInfo cid = some chn) :
      ((s.periphery.sessions w).setChannel chn info).psmSdpChn.valid = false := by
    obtain ⟨isValid, -⟩ := Device.getChannelInfo_some found
    cases chn with
    | sdp => cases sdp.symm.trans isValid
    | hidCntl => exact sdp
    | hidIntr => exact sdp
  cases shape with
  | @connectRsp dcid scid result status chn works found =>
      have session : q.sessions w = _ := performed.one_session rfl
      rw [session]
      refine ⟨hid found, (stage.more kept).recordCid sdp found ?_⟩
      have answer : Exchange.answer ⟨.command code ident payload size, sent, calls⟩ =
          some (dcid, scid) := by
        unfold Exchange.answer
        dsimp only
        rw [read]
        rfl
      rw [answers_snoc, answer]
      exact List.mem_append_right _ List.mem_cons_self
  | configReq found options =>
      have session : q.sessions w = _ := performed.one_session rfl
      rw [session]
      exact ⟨hid found, (stage.more kept).recordMtu _ _⟩
  | configRsp found =>
      have session : q.sessions w = _ := performed.one_session rfl
      obtain ⟨-, answer, -, -, asked⟩ := allowed
      rw [session]
      exact ⟨hid found, (stage.more kept).complete sdp found asked⟩
  | disconnectReq found => exact allowed.elim

theorem Taken.stage {w : WiimoteId} {s t : World} {e : Exchange} {events : List Exchange}
    (taken : Taken w s e t) (ok : hostSetsUp events s e)
    (sdp : (s.periphery.sessions w).psmSdpChn.valid = false)
    (stage : Stage (answers events) (s.periphery.sessions w) (requestsIn events)) :
    (t.periphery.sessions w).psmSdpChn.valid = false ∧
      Stage (answers (events ++ [e])) (t.periphery.sessions w) (requestsIn (events ++ [e])) ∧
      SetupOrder (answers events) (requestsIn (events ++ [e])) := by
  have kept : ∀ answer ∈ answers events, answer ∈ answers (events ++ [e]) := by
    intro answer member
    rw [answers_snoc]
    exact List.mem_append_left _ member
  have linkage (quiet : requestsOf e.sent = [])
      (same : (t.periphery.sessions w).linkage = (s.periphery.sessions w).linkage) :
      (t.periphery.sessions w).psmSdpChn.valid = false ∧
        Stage (answers (events ++ [e])) (t.periphery.sessions w) (requestsIn (events ++ [e])) ∧
        SetupOrder (answers events) (requestsIn (events ++ [e])) := by
    rw [requestsIn_snoc, quiet, List.append_nil]
    refine ⟨?_, (stage.of_linkage same).more kept, stage.order⟩
    rw [← sdp]
    exact congrArg (fun linkage => linkage.2.1.valid) same
  cases taken with
  | elsewhere session platform => exact linkage rfl (by rw [session])
  | setExtension core session platform => exact linkage rfl (by rw [session]; rfl)
  | @deeds turn deeds q performed shape placed =>
      cases shape with
      | linking acl shape =>
          obtain ⟨still, next⟩ := stage.linking sdp shape performed placed
          rw [requestsIn_snoc]
          exact ⟨still, next.more kept, next.order⟩
      | reports acl shape =>
          exact linkage (performed.unlinked_quiet shape.unlinked)
            (performed.linkage (Or.inl shape.unlinked))
      | command read shape =>
          obtain ⟨still, next⟩ := stage.command sdp read shape performed ok
          have quiet := performed.quiet shape.quiet
          rw [requestsIn_snoc, quiet, List.append_nil]
          exact ⟨still, next, stage.order⟩
      | otherCommand read =>
          have none : ∀ deed ∈ ([] : List Deed), deed.links = false :=
            fun _ member => absurd member List.not_mem_nil
          exact linkage (performed.unlinked_quiet none) (performed.linkage (Or.inl none))
      | noReport found =>
          have none : ∀ deed ∈ ([] : List Deed), deed.links = false :=
            fun _ member => absurd member List.not_mem_nil
          exact linkage (performed.unlinked_quiet none) (performed.linkage (Or.inl none))
      | report found shape =>
          exact linkage (performed.unlinked_quiet shape.unlinked)
            (performed.linkage (Or.inl shape.unlinked))

def ChannelRequest.Due (wiimote : Session) : ChannelRequest → Prop
  | .connect psm _ => psm = l2capPsmHidIntr → wiimote.psmHidCntlChn.isComplete = true
  | .config remoteCid => ∃ chn, (wiimote.channel chn).isAccepted = true ∧
      (wiimote.channel chn).remoteCid = remoteCid

def Accepts (before after : Session) : Prop :=
  ∀ chn, (after.channel chn).isAccepted = true → (before.channel chn).isAccepted = true ∧
    (before.channel chn).remoteCid = (after.channel chn).remoteCid

theorem Accepts.act {egc : Platform} {dev : Device} {a : Air} {before : Session} {deed : Deed}
    (accepts : Accepts before (a.sessions dev.self))
    (kind : (∃ chn psm localCid, deed = .request chn psm localCid) ∨
      (∃ chn placed, deed = .configure chn placed) ∨ deed = .finish) :
    Accepts before ((a.act egc dev deed).sessions dev.self) := by
  rcases kind with ⟨chn, psm, localCid, rfl⟩ | ⟨chn, placed, rfl⟩ | rfl
  · intro other accepted
    dsimp only [Air.act, Deed.target] at accepted ⊢
    rw [Function.update_self, Deed.session, Session.channel_setChannel] at accepted ⊢
    by_cases same : other = chn
    · rw [if_pos same] at accepted
      cases accepted
    · rw [if_neg same] at accepted ⊢
      exact accepts other accepted
  · intro other accepted
    dsimp only [Air.act, Deed.target] at accepted ⊢
    rw [Function.update_self] at accepted ⊢
    cases placed with
    | false => exact accepts other accepted
    | true =>
        rw [Deed.session, if_pos rfl, Session.channel_setChannel] at accepted ⊢
        by_cases same : other = chn
        · rw [if_pos same] at accepted ⊢
          rw [same]
          exact accepts chn accepted
        · rw [if_neg same] at accepted ⊢
          exact accepts other accepted
  · intro other accepted
    dsimp only [Air.act, Deed.target] at accepted ⊢
    rw [Function.update_self] at accepted ⊢
    cases other with
    | sdp => exact accepts .sdp accepted
    | hidCntl => exact accepts .hidCntl accepted
    | hidIntr => exact accepts .hidIntr accepted

theorem Device.LinkingDeeds.due {dev : Device} {p q : Periphery} {deeds : List Deed}
    (shape : Device.LinkingDeeds (p.sessions dev.self) deeds)
    (performed : dev.Performs p deeds q) :
    ∀ reply ∈ emitted (Air.act p.platform dev) (Air.emits p.platform dev) p.air deeds,
      ∀ request, channelRequest reply.data = some request →
        request.Due (p.sessions dev.self) := by
  have ready : ∀ chn psm localCid, .request chn psm localCid ∈ deeds → psm = l2capPsmHidIntr →
      (p.sessions dev.self).psmHidCntlChn.isComplete = true := by
    intro chn psm localCid member isIntr
    have unasked {deeds : List Deed} (configures : Device.Configures deeds)
        (member : .request chn psm localCid ∈ deeds) : False := by
      obtain ⟨chn, placed, same⟩ := configures _ member
      cases same
    cases shape with
    | requestCntl invalid configures =>
        rcases List.mem_cons.mp member with same | later
        · cases same
          cases isIntr
        · exact (unasked configures later).elim
    | requestIntr complete invalid configures => exact complete
    | finish cntl intr => exact cntl
    | wait configures incomplete => exact (unasked configures member).elim
  apply performed.path.emitted_all (fun a => Accepts (p.sessions dev.self) (a.sessions dev.self))
    (fun reply : Reply => ∀ request, channelRequest reply.data = some request →
      request.Due (p.sessions dev.self))
  · exact fun chn accepted => ⟨accepted, rfl⟩
  · intro a deed member accepts _
    exact accepts.act (shape.kinds deed member)
  · intro a deed member accepts enabled reply sent request carries
    have listed : request ∈ requestsOf (a.emits p.platform dev deed) :=
      List.mem_filterMap.mpr ⟨reply, sent, carries⟩
    rcases shape.kinds deed member with ⟨chn, psm, localCid, rfl⟩ | ⟨chn, placed, rfl⟩ | rfl
    · rw [Air.emits_request] at listed
      rw [List.mem_singleton.mp listed]
      exact ready chn psm localCid member
    · cases placed with
      | false => cases listed
      | true =>
          rw [Air.emits_configure] at listed
          rw [List.mem_singleton.mp listed]
          obtain ⟨before, same⟩ := accepts chn enabled.1
          exact ⟨chn, before, same⟩
    · cases listed

theorem Taken.due {w : WiimoteId} {s t : World} {e : Exchange} (taken : Taken w s e t) :
    ∀ request ∈ requestsOf e.sent, request.Due (s.periphery.sessions w) := by
  intro request listed
  have quiet (none : requestsOf e.sent = []) : request.Due (s.periphery.sessions w) := by
    rw [none] at listed
    cases listed
  cases taken with
  | elsewhere session platform => exact quiet rfl
  | setExtension core session platform => exact quiet rfl
  | @deeds turn deeds q performed shape placed =>
      cases shape with
      | linking acl shape =>
          obtain ⟨reply, sent, carries⟩ := List.mem_filterMap.mp listed
          exact shape.due performed reply sent request carries
      | reports acl shape => exact quiet (performed.unlinked_quiet shape.unlinked)
      | command read shape => exact quiet (performed.quiet shape.quiet)
      | otherCommand read => exact quiet rfl
      | noReport found => exact quiet rfl
      | report found shape => exact quiet (performed.unlinked_quiet shape.unlinked)

theorem Air.act_aclState {egc : Platform} {dev : Device} {a : Air} {deed : Deed}
    (other : deed ≠ .finish) :
    ((a.act egc dev deed).sessions dev.self).aclState = (a.sessions dev.self).aclState := by
  cases links : deed.links with
  | false => exact congrArg Prod.fst (Air.act_linkage (Or.inl links))
  | true =>
      have target := Deed.links_target links dev.self
      dsimp only [Air.act]
      rw [target, Function.update_self]
      cases deed with
      | request chn psm localCid => exact Session.setChannel_aclState _ _ _
      | configure chn placed =>
          cases placed with
          | true => exact Session.setChannel_aclState _ _ _
          | false => rfl
      | finish => exact absurd rfl other
      | recordCid chn remoteCid => exact Session.setChannel_aclState _ _ _
      | recordMtu chn mtu ident options placed => exact Session.setChannel_aclState _ _ _
      | complete chn => exact Session.setChannel_aclState _ _ _
      | close chn ident dcid scid placed => exact Session.setChannel_aclState _ _ _
      | _ => cases links

theorem Device.Performs.goes_on {dev : Device} {p q : Periphery} {deeds : List Deed}
    (performed : dev.Performs p deeds q) (unfinished : .finish ∉ deeds) :
    (q.sessions dev.self).aclState = (p.sessions dev.self).aclState ∧
      ∀ device, .resume device ∉ emitted (Air.act p.platform dev)
        (fun _ deed => deed.egcCalls dev) p.air deeds := by
  have other : ∀ deed ∈ deeds, deed ≠ .finish := by
    intro deed member same
    exact unfinished (same ▸ member)
  refine ⟨?_, ?_⟩
  · apply performed.path.kept
      (fun a => (a.sessions dev.self).aclState = (p.sessions dev.self).aclState) rfl
    intro a deed member same _
    rw [Air.act_aclState (other deed member), same]
  · intro device called
    have none := performed.path.emitted_all (fun _ => True) (fun call => call ≠ EgcCall.resume device)
      trivial (fun _ _ _ _ _ => trivial) ?_ _ called
    · exact none rfl
    · intro a deed member _ _ call made same
      rw [same] at made
      cases deed <;> simp [Deed.egcCalls] at made
      exact other _ member rfl

def Session.Leaves (before after : Session) : Prop :=
  before.aclState = .linking ∧ after.aclState ≠ .linking

/-- The set-up ends in the tick that finds both channels complete, and the controller resumes. -/
theorem Taken.leaves {w : WiimoteId} {s t : World} {e : Exchange} (taken : Taken w s e t) :
    ((s.periphery.sessions w).Leaves (t.periphery.sessions w) ↔ e.turn = .tick ∧
      (s.periphery.sessions w).aclState = .linking ∧ (s.periphery.sessions w).Open) ∧
    ((s.periphery.sessions w).Leaves (t.periphery.sessions w) →
      e.calls = [.resume (Deed.controller ⟨s.core, w⟩)]) ∧
    (¬ (s.periphery.sessions w).Leaves (t.periphery.sessions w) →
      ∀ device, .resume device ∉ e.calls) := by
  have stays (same : (t.periphery.sessions w).aclState = (s.periphery.sessions w).aclState)
      (silent : ∀ device, .resume device ∉ e.calls)
      (early : ¬ (e.turn = .tick ∧ (s.periphery.sessions w).aclState = .linking ∧
        (s.periphery.sessions w).Open)) :
      ((s.periphery.sessions w).Leaves (t.periphery.sessions w) ↔ e.turn = .tick ∧
        (s.periphery.sessions w).aclState = .linking ∧ (s.periphery.sessions w).Open) ∧
      ((s.periphery.sessions w).Leaves (t.periphery.sessions w) →
        e.calls = [.resume (Deed.controller ⟨s.core, w⟩)]) ∧
      (¬ (s.periphery.sessions w).Leaves (t.periphery.sessions w) →
        ∀ device, .resume device ∉ e.calls) := by
    have remains : ¬ (s.periphery.sessions w).Leaves (t.periphery.sessions w) := by
      intro leaves
      exact leaves.2 (same.trans leaves.1)
    exact ⟨iff_of_false remains early, fun leaves => absurd leaves remains, fun _ => silent⟩
  cases taken with
  | elsewhere session platform =>
      apply stays (by rw [session]) (fun device => List.not_mem_nil)
      intro early
      cases early.1
  | setExtension core session platform =>
      apply stays (by rw [session]; rfl) (fun device => List.not_mem_nil)
      intro early
      cases early.1
  | @deeds turn deeds q performed shape placed =>
      have goesOn (unfinished : .finish ∉ deeds) (early : ¬ (turn = .tick ∧
          (s.periphery.sessions w).aclState = .linking ∧ (s.periphery.sessions w).Open)) := by
        obtain ⟨same, silent⟩ := performed.goes_on unfinished
        exact stays same silent early
      have unlinked (quiet : ∀ deed ∈ deeds, deed.links = false) : .finish ∉ deeds := by
        intro member
        cases quiet _ member
      cases shape with
      | linking acl shape =>
          have unfinished {deeds : List Deed} (configures : Device.Configures deeds) :
              .finish ∉ deeds := by
            intro member
            obtain ⟨chn, placed, same⟩ := configures _ member
            cases same
          have valid (chn : Channel) (hid : chn ≠ .sdp)
              (isOpen : (s.periphery.sessions w).Open) :
              ((s.periphery.sessions w).channel chn).valid = true :=
            (L2capChannelInfo.isComplete_iff.mp (isOpen chn hid)).1
          cases shape with
          | requestCntl invalid configures =>
              apply goesOn
              · simp [unfinished configures]
              · intro ready
                cases invalid.symm.trans (valid .hidCntl (by decide) ready.2.2)
          | requestIntr complete invalid configures =>
              apply goesOn
              · simp [unfinished configures]
              · intro ready
                cases invalid.symm.trans (valid .hidIntr (by decide) ready.2.2)
          | finish cntl intr =>
              have isOpen : (s.periphery.sessions w).Open := by
                intro chn hid
                cases chn with
                | sdp => exact absurd rfl hid
                | hidCntl => exact cntl
                | hidIntr => exact intr
              have session : q.sessions w = _ := performed.one_session rfl
              have leaves : (s.periphery.sessions w).Leaves (q.sessions w) := by
                refine ⟨acl, ?_⟩
                rw [session]
                intro linking
                cases linking
              exact ⟨iff_of_true leaves ⟨rfl, acl, isOpen⟩, fun _ => rfl,
                fun remains => absurd leaves remains⟩
          | wait configures incomplete =>
              apply goesOn (unfinished configures)
              intro ready
              exact incomplete ⟨ready.2.2 .hidCntl (by decide), ready.2.2 .hidIntr (by decide)⟩
      | reports acl shape =>
          apply goesOn (unlinked shape.unlinked)
          exact fun ready => acl ready.2.1
      | command read shape =>
          apply goesOn
          · cases shape <;> simp
          · intro ready
            cases ready.1
      | otherCommand read =>
          apply goesOn List.not_mem_nil
          intro ready
          cases ready.1
      | noReport found =>
          apply goesOn List.not_mem_nil
          intro ready
          cases ready.1
      | report found shape =>
          apply goesOn (unlinked shape.unlinked)
          intro ready
          cases ready.1

/-- What a step of the set-up does, after the events before it. -/
structure SetsUp (w : WiimoteId) (events : List Exchange) (s : World) (e : Exchange) (t : World) :
    Prop where
  order : SetupOrder (answers events) (requestsIn (events ++ [e]))
  due : ∀ request ∈ requestsOf e.sent, request.Due (s.periphery.sessions w)
  leaves : (s.periphery.sessions w).Leaves (t.periphery.sessions w) ↔ e.turn = .tick ∧
    (s.periphery.sessions w).aclState = .linking ∧ (s.periphery.sessions w).Open
  stays : (s.periphery.sessions w).aclState ≠ .linking →
    (t.periphery.sessions w).aclState ≠ .linking
  resumes : (s.periphery.sessions w).Leaves (t.periphery.sessions w) →
    e.calls = [.resume (Deed.controller ⟨s.core, w⟩)]
  rests : ¬ (s.periphery.sessions w).Leaves (t.periphery.sessions w) →
    ∀ device, .resume device ∉ e.calls

/-- The fake Wiimote of a connection that begins: no channel is in use. -/
structure Begins (s : World) (w : WiimoteId) : Prop where
  connected : (s.core.links w).isConnected = true
  linking : (s.periphery.sessions w).aclState = .linking
  unused : ∀ chn, ((s.periphery.sessions w).channel chn).valid = false

/-- In every run of a connection with such a host, each step sets the channels up in order. -/
theorem channels_set_up_in_order {w : WiimoteId} {start s t : World} {events : List Exchange}
    {e : Exchange} (begins : Begins start w)
    (trace : Trace (Exchanges w) hostSetsUp start events s) (ok : hostSetsUp events s e)
    (step : Exchanges w s e t) : SetsUp w events s e t := by
  obtain ⟨connected, sdp, stage⟩ := trace.invariant
    (fun events s => (s.core.links w).isConnected = true ∧
      (s.periphery.sessions w).psmSdpChn.valid = false ∧
      Stage (answers events) (s.periphery.sessions w) (requestsIn events))
    ⟨begins.connected, begins.unused .sdp, .none (begins.unused .hidCntl) (begins.unused .hidIntr)⟩
    (by
      intro events s e t ⟨connected, sdp, stage⟩ ok step
      obtain ⟨still, next, -⟩ := (step.taken connected).stage ok sdp stage
      exact ⟨step.connected, still, next⟩)
  have taken := step.taken connected
  obtain ⟨leaves, resumes, rests⟩ := taken.leaves
  exact ⟨(taken.stage ok sdp stage).2.2, taken.due, leaves, taken.aclState, resumes, rests⟩

instance (events : List Exchange) (payload : List UInt8) (size : UInt16) :
    (command : Command) → Decidable (hostMaySend events payload size command)
  | .connectRsp _ _ _ _ => inferInstanceAs (Decidable (_ ∧ _ ∧ _))
  | .configReq _ _ => inferInstanceAs (Decidable (_ ∧ _))
  | .configRsp _ _ => inferInstanceAs (Decidable (_ ∧ _))
  | .disconnectReq _ _ => .isFalse id
  | .other => .isTrue trivial

instance (events : List Exchange) (s : World) (e : Exchange) : Decidable (hostSetsUp events s e) :=
  match turn : e.turn with
  | .command code ident payload size =>
      match read : commandOf code payload with
      | .ok command =>
          decidable_of_iff (hostMaySend events payload size command) (by
            unfold hostSetsUp
            rw [turn]
            dsimp only
            rw [read]
            exact ⟨fun may _ same => Except.ok.inj same ▸ may, fun all => all command rfl⟩)
      | .error fault => .isTrue (by
          unfold hostSetsUp
          rw [turn]
          intro command found
          cases read.symm.trans found)
  | .tick | .data _ _ _ | .setExtension _ | .elsewhere => .isTrue (by
      unfold hostSetsUp
      rw [turn]
      trivial)

def setupTurns : List Turn :=
  let accepts (dcid scid : UInt16) : Turn :=
    .command l2capConnectRsp l2capConnectReq
      (bytes16 (htole16 dcid) ++ bytes16 (htole16 scid) ++ bytes16 (htole16 l2capSuccess) ++
        bytes16 (htole16 l2capNoInfo)) 8
  let configures (cid : UInt16) : List Turn :=
    [.command l2capConfigReq 1 (configReqPayload cid 185 l2capFlushTimoDefault) 8,
      .command l2capConfigRsp l2capConfigReq (configRspPayload cid []) 6]
  [.tick, accepts 0x60 0x40, .tick] ++ configures 0x40 ++
    [.tick, accepts 0x61 0x41, .tick] ++ configures 0x41

theorem channels_set_up_in_order_completely :
    ∃ (start s t : World) (events : List Exchange) (e : Exchange), Run .gamepad anyInput start ∧
      SetsUp 0 events s e t ∧ (s.periphery.sessions 0).Leaves (t.periphery.sessions 0) ∧
      requestsIn (events ++ [e]) =
        [.connect l2capPsmHidCntl 0x40, .config 0x60, .connect l2capPsmHidIntr 0x41,
          .config 0x61] := by
  obtain ⟨start, reached, check⟩ : ∃ s, Run .gamepad anyInput s ∧
      (decide (((s.core.links 0).isConnected = true ∧
        (s.periphery.sessions 0).aclState = .linking) ∧
        (s.periphery.sessions 0).psmSdpChn.valid = false ∧
        (s.periphery.sessions 0).psmHidCntlChn.valid = false ∧
        (s.periphery.sessions 0).psmHidIntrChn.valid = false) &&
      (exchanges 0 hostSetsUp setupTurns [] s).any fun before =>
        (exchange 0 .tick before.2).any fun after =>
          decide (hostSetsUp before.1 before.2 after.1 ∧
            ((before.2.periphery.sessions 0).aclState = .linking ∧
              (after.2.periphery.sessions 0).aclState ≠ .linking) ∧
            requestsIn (before.1 ++ [after.1]) =
              [.connect l2capPsmHidCntl 0x40, .config 0x60, .connect l2capPsmHidIntr 0x41,
                .config 0x61])) = true :=
    exists_of_execute [writeScanEnable, .timer [.added (fullDevice 1)], acceptCon 0]
      (by decide +kernel)
  obtain ⟨first, rest⟩ := Bool.and_eq_true_iff.mp check
  obtain ⟨⟨connected, linking⟩, sdp, cntl, intr⟩ := of_decide_eq_true first
  have begins : Begins start 0 := by
    refine ⟨connected, linking, ?_⟩
    intro chn
    cases chn with
    | sdp => exact sdp
    | hidCntl => exact cntl
    | hidIntr => exact intr
  obtain ⟨⟨events, s⟩, before, rest⟩ := (Option.any_eq_true _ _).mp rest
  obtain ⟨⟨e, t⟩, after, rest⟩ := (Option.any_eq_true _ _).mp rest
  obtain ⟨ok, leaves, requests⟩ := of_decide_eq_true rest
  have trace := exchanges_trace .nil before
  exact ⟨start, s, t, events, e, reached,
    channels_set_up_in_order begins trace ok (exchange_step after), leaves, requests⟩

end Fakemote
