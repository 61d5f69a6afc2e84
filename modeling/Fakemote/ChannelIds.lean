import Fakemote.CommandDispatch
import Fakemote.HostView
import Fakemote.OpenChannels

/-! The local channel ids. `generate_l2cap_channel_id` draws them from one counter of 16 bits, which
starts behind the reserved identifiers and outlives connections. -/

namespace Fakemote

open Bytes Program Transition Labelled

/-- `L2CAP_FIRST_CID`; the identifiers below it are reserved. -/
def l2capFirstCid : Nat := 0x40

def channelIdCount : Nat := 65472

def channelId (count : Nat) : UInt16 := UInt16.ofNat (l2capFirstCid + count)

theorem channelId_toNat {count : Nat} (unwrapped : count < channelIdCount) :
    (channelId count).toNat = l2capFirstCid + count := by
  unfold channelIdCount at unwrapped
  unfold channelId l2capFirstCid
  rw [UInt16.toNat_ofNat_of_lt']
  change 0x40 + count < 65536
  omega

theorem channelId_succ (count : Nat) : channelId (count + 1) = channelId count + 1 :=
  UInt16.ofNat_add (l2capFirstCid + count) 1

/-- The counter wraps to the null identifier. -/
theorem channelId_wraps : channelId channelIdCount = l2capNullCid := rfl

namespace Session

def Narrows (before after : Session) : Prop :=
  ∀ chn, (after.channel chn).valid = true →
    (before.channel chn).valid = true ∧ (after.channel chn).localCid = (before.channel chn).localCid

namespace Narrows

variable {before middle after : Session}

theorem refl (wiimote : Session) : wiimote.Narrows wiimote := fun _ valid => ⟨valid, rfl⟩

theorem trans (first : before.Narrows middle) (second : middle.Narrows after) :
    before.Narrows after := by
  intro chn valid
  obtain ⟨was, same⟩ := second chn valid
  obtain ⟨first, firstSame⟩ := first chn was
  exact ⟨first, same.trans firstSame⟩

theorem of_channels (same : ∀ chn, after.channel chn = before.channel chn) :
    before.Narrows after := by
  intro chn valid
  rw [same] at valid ⊢
  exact ⟨valid, rfl⟩

theorem of_linkage (same : after.linkage = before.linkage) : before.Narrows after := by
  apply of_channels
  intro chn
  cases chn with
  | sdp => exact congrArg (fun linkage => linkage.2.1) same
  | hidCntl => exact congrArg (fun linkage => linkage.2.2.1) same
  | hidIntr => exact congrArg (fun linkage => linkage.2.2.2) same

theorem setChannel {chn : Channel} {info : L2capChannelInfo}
    (valid : info.valid = true → (before.channel chn).valid = true)
    (localCid : info.localCid = (before.channel chn).localCid) :
    before.Narrows (before.setChannel chn info) := by
  intro other isValid
  rw [channel_setChannel] at isValid ⊢
  by_cases same : other = chn
  · subst same
    rw [if_pos rfl] at isValid ⊢
    exact ⟨valid isValid, localCid⟩
  · rw [if_neg same] at isValid ⊢
    exact ⟨isValid, rfl⟩

end Narrows

/-- No SDP channel, ids below `limit`, and two HID channels that differ. -/
structure Apart (limit : Nat) (wiimote : Session) : Prop where
  sdp : wiimote.psmSdpChn.valid = false
  drawn : ∀ chn, (wiimote.channel chn).valid = true → (wiimote.channel chn).localCid.toNat < limit
  distinct : wiimote.psmHidCntlChn.valid = true → wiimote.psmHidIntrChn.valid = true →
    wiimote.psmHidCntlChn.localCid ≠ wiimote.psmHidIntrChn.localCid

namespace Apart

variable {limit : Nat} {wiimote after : Session}

theorem narrows (apart : wiimote.Apart limit) (narrows : wiimote.Narrows after) :
    after.Apart limit where
  sdp := Bool.eq_false_iff.mpr fun valid =>
    absurd (narrows .sdp valid).1 (Bool.eq_false_iff.mp apart.sdp)
  drawn chn valid := by
    obtain ⟨was, same⟩ := narrows chn valid
    rw [same]
    exact apart.drawn chn was
  distinct cntl intr := by
    obtain ⟨cntlWas, cntlSame⟩ := narrows .hidCntl cntl
    obtain ⟨intrWas, intrSame⟩ := narrows .hidIntr intr
    intro same
    exact apart.distinct cntlWas intrWas (cntlSame.symm.trans (same.trans intrSame))

theorem weaken (apart : wiimote.Apart limit) {higher : Nat} (le : limit ≤ higher) :
    wiimote.Apart higher :=
  ⟨apart.sdp, fun chn valid => Nat.lt_of_lt_of_le (apart.drawn chn valid) le, apart.distinct⟩

theorem setup (apart : wiimote.Apart limit) {chn : Channel} (hid : chn ≠ .sdp) (psm : UInt16)
    {localCid : UInt16} (next : localCid.toNat = limit) :
    (wiimote.setChannel chn (.setup psm localCid)).Apart (limit + 1) := by
  have new (other : Channel) (valid : (wiimote.channel other).valid = true) :
      localCid ≠ (wiimote.channel other).localCid := by
    intro same
    have below := apart.drawn other valid
    rw [← same] at below
    omega
  constructor
  · cases chn with
    | sdp => exact absurd rfl hid
    | hidCntl => exact apart.sdp
    | hidIntr => exact apart.sdp
  · intro other valid
    rw [channel_setChannel] at valid ⊢
    by_cases same : other = chn
    · rw [if_pos same]
      exact Nat.lt_succ_of_le (Nat.le_of_eq next)
    · rw [if_neg same] at valid ⊢
      exact Nat.lt_succ_of_lt (apart.drawn other valid)
  · cases chn with
    | sdp => exact absurd rfl hid
    | hidCntl => exact fun _ intr => new .hidIntr intr
    | hidIntr => exact fun cntl _ => (new .hidCntl cntl).symm

theorem addressed (apart : wiimote.Apart limit) {chn : Channel}
    (valid : (wiimote.channel chn).valid = true) :
    wiimote.getChannelInfo (wiimote.channel chn).localCid = some chn := by
  have sdp := apart.sdp
  unfold getChannelInfo
  cases chn with
  | sdp => exact absurd valid (Bool.eq_false_iff.mp sdp)
  | hidCntl =>
      have isValid : wiimote.psmHidCntlChn.valid = true := valid
      simp [channel, sdp, isValid]
  | hidIntr =>
      have isValid : wiimote.psmHidIntrChn.valid = true := valid
      have other : ¬ (wiimote.psmHidCntlChn.valid = true ∧
          wiimote.psmHidIntrChn.localCid = wiimote.psmHidCntlChn.localCid) := fun both =>
        apart.distinct both.1 isValid both.2.symm
      simp [channel, sdp, isValid, other]

end Apart

end Session

def Deed.asks : Deed → Bool
  | request _ _ _ => true
  | _ => false

theorem Deed.session_narrows {egc : Platform} {deed : Deed} (silent : deed.asks = false)
    (wiimote : Session) : wiimote.Narrows (deed.session egc wiimote) := by
  by_cases linking : deed.links = true
  · cases deed with
    | request chn psm localCid => cases silent
    | configure chn placed =>
        cases placed with
        | true => exact .setChannel id rfl
        | false => exact .refl wiimote
    | finish => exact .of_channels fun chn => by cases chn <;> rfl
    | recordCid chn remoteCid => exact .setChannel id rfl
    | recordMtu chn mtu ident options placed => exact .setChannel id rfl
    | complete chn => exact .setChannel id rfl
    | close chn ident dcid scid placed => exact .setChannel (fun valid => by cases valid) rfl
    | _ => cases linking
  · exact .of_linkage (Deed.session_linkage (by simpa using linking) wiimote)

theorem Air.act_narrows {egc : Platform} {dev : Device} {deed : Deed} (silent : deed.asks = false)
    (a : Air) (w : WiimoteId) : (a.sessions w).Narrows ((a.act egc dev deed).sessions w) := by
  dsimp only [Air.act]
  by_cases target : w = deed.target dev.self
  · subst target
    rw [Function.update_self]
    exact Deed.session_narrows silent _
  · rw [Function.update_of_ne target]
    exact .refl _

theorem Air.act_startingId {egc : Platform} {dev : Device} {deed : Deed}
    (silent : deed.asks = false) (a : Air) : (a.act egc dev deed).startingId = a.startingId := by
  cases deed with
  | request chn psm localCid => cases silent
  | _ => rfl

structure Air.Narrows (a b : Air) : Prop where
  startingId : b.startingId = a.startingId
  sessions : ∀ w, (a.sessions w).Narrows (b.sessions w)

theorem silent_path {egc : Platform} {dev : Device} {a b : Air} {deeds : List Deed}
    (path : Path (Air.Enabled dev) (Air.act egc dev) a deeds b)
    (silent : ∀ deed ∈ deeds, deed.asks = false) : a.Narrows b := by
  apply path.kept (fun b => a.Narrows b) ⟨rfl, fun w => .refl _⟩
  intro b deed member before _
  exact ⟨(b.act_startingId (silent deed member)).trans before.startingId,
    fun w => (before.sessions w).trans (b.act_narrows (silent deed member) w)⟩

/-- A call opens no channel, or one HID channel with the id that it draws. -/
inductive Draws (s t : World) : Prop
  | none : s.periphery.air.Narrows t.periphery.air → Draws s t
  | one {w : WiimoteId} {chn : Channel} {psm : UInt16} : chn ≠ .sdp →
      t.periphery.startingId = s.periphery.startingId + 1 →
      (∀ v, (Function.update s.periphery.sessions w ((s.periphery.sessions w).setChannel chn
        (.setup psm s.periphery.startingId)) v).Narrows (t.periphery.sessions v)) →
      Draws s t

theorem Device.Configures.silent {deeds : List Deed} (configures : Device.Configures deeds) :
    ∀ deed ∈ deeds, deed.asks = false := by
  intro deed member
  obtain ⟨chn, placed, rfl⟩ := configures deed member
  rfl

theorem Device.Performs.draws {s : World} {w : WiimoteId} {q : Periphery} {chn : Channel}
    {psm localCid : UInt16} {deeds : List Deed} (hid : chn ≠ .sdp)
    (performed : Device.Performs ⟨s.core, w⟩ s.periphery (.request chn psm localCid :: deeds) q)
    (configures : Device.Configures deeds) : Draws s { s with periphery := q } := by
  obtain ⟨drawn, path⟩ := performed.path
  have rest := silent_path path configures.silent
  have id : localCid = s.periphery.startingId := drawn
  subst id
  exact .one hid rest.startingId rest.sessions

theorem Device.LinkingDeeds.draws {s : World} {w : WiimoteId} {q : Periphery} {deeds : List Deed}
    (shape : Device.LinkingDeeds (s.periphery.sessions w) deeds)
    (performed : Device.Performs ⟨s.core, w⟩ s.periphery deeds q) :
    Draws s { s with periphery := q } := by
  cases shape with
  | requestCntl invalid configures => exact performed.draws (by decide) configures
  | requestIntr complete invalid configures => exact performed.draws (by decide) configures
  | finish cntl intr =>
      apply Draws.none
      apply silent_path performed.path
      intro deed member
      rw [List.mem_singleton.mp member]
      rfl
  | wait configures incomplete => exact .none (silent_path performed.path configures.silent)

theorem Deed.asks_of_unlinked {deed : Deed} (unlinked : deed.links = false) :
    deed.asks = false := by
  cases deed with
  | request chn psm localCid => cases unlinked
  | _ => rfl

theorem CommandDeeds.silent {wiimote : Session} {ident : UInt8} {payload : List UInt8}
    {size : UInt16} {command : Command} {deeds : List Deed}
    (shape : CommandDeeds wiimote ident payload size command deeds) :
    ∀ deed ∈ deeds, deed.asks = false := by
  cases shape <;> simp [Deed.asks]

theorem Aloof.draws {s t : World} (aloof : Aloof s t) : Draws s t :=
  .none ⟨aloof.startingId, fun w => .of_channels fun chn => by
    change (t.periphery.sessions w).channel chn = (s.periphery.sessions w).channel chn
    rw [aloof.sessions]⟩

theorem Session.Narrows.initState (wiimote : Session) : wiimote.Narrows wiimote.initState := by
  intro chn valid
  cases chn with
  | sdp => cases valid
  | hidCntl => cases valid
  | hidIntr => cases valid

theorem callStep_draws {s t : World} {c : Call} (run : callStep s c = .ok t) : Draws s t := by
  cases callStep_effect run with
  | aloof aloof => exact aloof.draws
  | plug free => exact .none ⟨rfl, fun w => .refl _⟩
  | @assign w d inactive found =>
      refine .none ⟨rfl, ?_⟩
      intro v
      change (s.periphery.sessions v).Narrows ((s.assigned w d).periphery.sessions v)
      by_cases same : v = w
      · subst same
        rw [s.assigned_session_same]
        exact .initState _
      · rw [s.assigned_session_other d same]
        exact .refl _
  | @accept data w s1 t before after =>
      refine .none ⟨after.startingId.trans before.startingId, ?_⟩
      intro v
      change (s.periphery.sessions v).Narrows (t.periphery.sessions v)
      rw [after.sessions, ← before.sessions]
      by_cases same : v = w
      · subst same
        rw [s1.accepted_session_same]
        exact .of_channels fun chn => by cases chn <;> rfl
      · rw [s1.accepted_session_other same]
        exact .refl _
  | tick active complete performed shape =>
      split at shape
      case isTrue => exact shape.draws performed
      case isFalse =>
          exact .none (silent_path performed.path fun deed member =>
            Deed.asks_of_unlinked (shape.unlinked deed member))
  | command read shape performed => exact .none (silent_path performed.path shape.silent)
  | output shape performed =>
      apply Draws.none
      apply silent_path performed.path
      rcases shape with rfl | shape
      · exact nofun
      · exact fun deed member => Deed.asks_of_unlinked (shape.unlinked deed member)

/-- The ids that `generate_l2cap_channel_id` has returned: it returns the counter and moves it. -/
def recordId (ids : List UInt16) (s : World) (_ : Call) (t : World) : List UInt16 :=
  if t.periphery.startingId = s.periphery.startingId then ids
  else ids ++ [s.periphery.startingId]

/-- The ids are the values of the counter, and while it has not wrapped the channels are apart. -/
structure Numbered (s : World) (ids : List UInt16) : Prop where
  listed : ids = (List.range ids.length).map channelId
  next : s.periphery.startingId = channelId ids.length
  apart : ids.length ≤ channelIdCount →
    ∀ w, (s.periphery.sessions w).Apart (l2capFirstCid + ids.length)

theorem word_succ_ne (word : UInt16) : word + 1 ≠ word := by
  intro same
  have values := congrArg UInt16.toNat same
  have bound := word.toNat_lt
  rw [UInt16.toNat_add] at values
  change (word.toNat + 1) % 65536 = word.toNat at values
  omega

theorem Numbered.step {s t : World} {c : Call} {ids : List UInt16} (numbered : Numbered s ids)
    (run : callStep s c = .ok t) : Numbered t (recordId ids s c t) := by
  cases callStep_draws run with
  | none narrows =>
      have same : t.periphery.startingId = s.periphery.startingId := narrows.startingId
      rw [recordId, if_pos same]
      exact ⟨numbered.listed, same.trans numbered.next,
        fun few w => (numbered.apart few w).narrows (narrows.sessions w)⟩
  | @one w chn psm hid moved narrows =>
      have other : t.periphery.startingId ≠ s.periphery.startingId := by
        rw [moved]
        exact word_succ_ne _
      have length : (ids ++ [s.periphery.startingId]).length = ids.length + 1 := by simp
      rw [recordId, if_neg other]
      constructor
      · rw [length, List.range_succ, List.map_append, ← numbered.listed, numbered.next]
        rfl
      · rw [length, moved, numbered.next, channelId_succ]
      · intro few v
        rw [length] at few ⊢
        have apart := numbered.apart (Nat.le_of_succ_le few)
        apply Session.Apart.narrows _ (narrows v)
        by_cases same : v = w
        · subst same
          rw [Function.update_self]
          apply (apart v).setup hid
          rw [numbered.next, channelId_toNat (Nat.lt_of_succ_le few)]
        · rw [Function.update_of_ne same]
          exact (apart v).weaken (Nat.le_succ _)

theorem init_numbered (env : Environment) : Numbered (World.init env) [] where
  listed := rfl
  next := rfl
  apart _ _ := {
    sdp := rfl
    drawn := fun chn valid => by cases chn <;> cases valid
    distinct := fun valid => by cases valid }

/-- No id is reserved, and the channels that are valid on one fake Wiimote can be told apart. -/
structure Usable (s : World) (ids : List UInt16) : Prop where
  unreserved : ∀ id ∈ ids, l2capFirstCid ≤ id.toNat
  distinct : ∀ w, (s.periphery.sessions w).psmHidCntlChn.valid = true →
    (s.periphery.sessions w).psmHidIntrChn.valid = true →
    (s.periphery.sessions w).psmHidCntlChn.localCid ≠ (s.periphery.sessions w).psmHidIntrChn.localCid
  addressed : ∀ w chn, ((s.periphery.sessions w).channel chn).valid = true →
    (s.periphery.sessions w).getChannelInfo ((s.periphery.sessions w).channel chn).localCid =
      some chn

/-- In every run the channel ids are usable as long as the counter has not wrapped, and no longer:
the first id after that is the null identifier. -/
theorem channel_ids_usable_iff (env : Environment) (s : World) (ids : List UInt16)
    (reached : Reachable (observed callStep recordId) (fun state c => Made state.1 c)
      (World.init env, []) (s, ids)) :
    Usable s ids ↔ ids.length ≤ channelIdCount := by
  have numbered : Numbered s ids := by
    apply reached.invariant (fun state => Numbered state.1 state.2) (init_numbered env)
    intro before after c holds _ observing
    obtain ⟨t, run, rfl⟩ := observed_ok.mp observing
    exact holds.step run
  constructor
  · intro usable
    by_contra many
    have wrapped : channelId channelIdCount ∈ ids := by
      rw [numbered.listed]
      exact List.mem_map_of_mem (List.mem_range.mpr (by omega))
    have reserved := usable.unreserved _ wrapped
    rw [channelId_wraps] at reserved
    exact absurd reserved (by decide)
  · intro few
    have apart := numbered.apart few
    refine ⟨?_, fun w => (apart w).distinct, fun w chn => (apart w).addressed⟩
    intro id member
    rw [numbered.listed] at member
    obtain ⟨count, below, rfl⟩ := List.mem_map.mp member
    rw [channelId_toNat (by have := List.mem_range.mp below; omega)]
    exact Nat.le_add_right _ _

def opensChannels : List Call :=
  [.hciCommand [0x1A, 0x0C, 1, hciPageScanEnable], .egcEvent (.added (plainDevice 1)), .assign 0,
    .tick 0, .hciCommand ([0x09, 0x04, 7] ++ (fakeWiimoteBdaddr 0).val ++ [hciRoleMaster]), .tick 0,
    .command 0 l2capConnectRsp l2capConnectReq ((connectRspCommand 0x60 0x40).drop 4) 8, .tick 0,
    .command 0 l2capConfigReq 1 ((configReqCommand 0x40 185).drop 4) 8,
    .command 0 l2capConfigRsp l2capConfigReq ((configRspCommand 0x40).drop 4) 6, .tick 0]

theorem channel_ids_usable_opened :
    ∃ s ids, Reachable (observed callStep recordId) (fun state c => Made state.1 c)
        (World.init .lenient, []) (s, ids) ∧
      ids = [0x40, 0x41] ∧ (s.periphery.sessions 0).psmHidCntlChn.valid = true ∧
      (s.periphery.sessions 0).psmHidIntrChn.valid = true ∧ Usable s ids := by
  obtain ⟨⟨s, ids⟩, reached, check⟩ : ∃ state, Reachable (observed callStep recordId)
      (fun state c => Made state.1 c) (World.init .lenient, []) state ∧
      decide (state.2 = [0x40, 0x41] ∧
        (state.1.periphery.sessions 0).psmHidCntlChn.valid = true ∧
        (state.1.periphery.sessions 0).psmHidIntrChn.valid = true) = true :=
    exists_of_execute opensChannels (by decide +kernel)
  obtain ⟨drawn, cntl, intr⟩ := of_decide_eq_true check
  have few : ids.length ≤ channelIdCount := by
    rw [show ids = [0x40, 0x41] from drawn]
    decide
  exact ⟨s, ids, reached, drawn, cntl, intr,
    (channel_ids_usable_iff .lenient s ids reached).mpr few⟩
-- The counter wraps. A fake Wiimote asks for its control channel again whenever the host has taken
-- it down, and each time it draws an id.

structure Endpoint.Clear (e : Endpoint) : Prop where
  pending : e.pendingQ = []
  ready : e.readyQ = []
  room : 0 < e.readyCap
  accepts : e.refuse e.sends = false

def Endpoint.holding (e : Endpoint) (msg : InjMessage) : Endpoint :=
  { e with
    readyQ := [.injected msg]
    sends := e.sends + 1
    produced := e.produced ++ [e.content (.injected msg)] }

theorem Endpoint.Clear.deliver {p : Periphery} (clear : p.bulkIn.Clear) (bytes : List UInt8) :
    p.deliver bytes = (.iosOk, { p with
      heap := p.heap.allocated
      bulkIn := p.bulkIn.holding (p.heap.message bytes) }) := by
  obtain ⟨pending, ready, room, accepts⟩ := clear
  have placed : p.bulkIn.handleBulkIntrReadyMessage (.injected (p.heap.message bytes)) =
      (p.bulkIn.holding (p.heap.message bytes), .iosOk) := by
    simp [Endpoint.handleBulkIntrReadyMessage, Endpoint.sendReady, Endpoint.holding, pending, ready,
      room, accepts]
  unfold Periphery.deliver
  rw [placed]

theorem checkSendConfigForNewChannel_idle {dev : Device} {chn : Channel} {p : Periphery}
    (idle : ((p.sessions dev.self).channel chn).isAccepted = false) :
    dev.checkSendConfigForNewChannel chn p = .ok ((), p) := by
  have session : getSession dev.self p = .ok (p.sessions dev.self, p) := rfl
  unfold Device.checkSendConfigForNewChannel
  rw [bind_run session, when, if_neg (by simp [idle])]
  rfl

def requestPacket (dev : Device) (p : Periphery) : List UInt8 :=
  signalPacket dev.conHandle l2capConnectReq l2capConnectReq
    (connectReqPayload l2capPsmHidCntl p.startingId)

def Periphery.opened (p : Periphery) (dev : Device) : Periphery :=
  { p with
    startingId := p.startingId + 1
    heap := p.heap.allocated
    bulkIn := p.bulkIn.holding (p.heap.message (requestPacket dev p))
    sessions := Function.update p.sessions dev.self
      ((p.sessions dev.self).setChannel .hidCntl (.setup l2capPsmHidCntl p.startingId)) }

theorem tickConnected_opens {dev : Device} {p : Periphery} {junk : Nat → UInt8}
    (linking : (p.sessions dev.self).aclState = .linking)
    (cntl : (p.sessions dev.self).psmHidCntlChn.valid = false)
    (intr : (p.sessions dev.self).psmHidIntrChn.valid = false)
    (allocates : p.heap.outcome p.heap.calls = some junk) (clear : p.bulkIn.Clear) :
    dev.tickConnected p = .ok ((), p.opened dev) := by
  have injected := builds_connectReq dev.conHandle l2capPsmHidCntl p.startingId
    { p with startingId := p.startingId + 1 } junk allocates
  rw [@Endpoint.Clear.deliver { p with startingId := p.startingId + 1 } clear] at injected
  have requested : dev.requestChannel .hidCntl l2capPsmHidCntl p = .ok ((), p.opened dev) := by
    have generated : Device.generateL2capChannelId p =
        .ok (p.startingId, { p with startingId := p.startingId + 1 }) := rfl
    unfold Device.requestChannel
    rw [bind_run generated]
    exact bind_run injected
  have session (w : WiimoteId) : getSession w p = .ok (p.sessions w, p) := rfl
  unfold Device.tickConnected
  rw [bind_run (session dev.self), if_pos linking]
  unfold Device.tickLinking
  rw [bind_run (session dev.self), if_pos cntl, bind_run requested]
  unfold Device.checkSendConfigs
  rw [bind_run (checkSendConfigForNewChannel_idle _)]
  · apply checkSendConfigForNewChannel_idle
    simp [Periphery.opened, Session.setChannel, Session.channel, L2capChannelInfo.isAccepted, intr]
  · simp [Periphery.opened, Session.setChannel, Session.channel, L2capChannelInfo.isAccepted,
      L2capChannelInfo.setup]

def Periphery.closed (p : Periphery) (dev : Device) (ident : UInt8) (dcid scid : UInt16) :
    Periphery :=
  { p with
    heap := p.heap.allocated
    bulkIn := p.bulkIn.holding (p.heap.message
      (signalPacket dev.conHandle l2capDisconnectRsp ident (disconnectPayload dcid scid)))
    sessions := Function.update p.sessions dev.self ((p.sessions dev.self).setChannel .hidCntl
      { (p.sessions dev.self).psmHidCntlChn with valid := false }) }

theorem handleDisconnectReq_closes {dev : Device} {p : Periphery} {junk : Nat → UInt8}
    {ident : UInt8} {dcid scid : UInt16}
    (found : (p.sessions dev.self).getChannelInfo dcid = some .hidCntl)
    (allocates : p.heap.outcome p.heap.calls = some junk) (clear : p.bulkIn.Clear) :
    dev.handleDisconnectReq ident dcid scid p = .ok ((), p.closed dev ident dcid scid) := by
  have looked : dev.channelOrFault dcid p = .ok (.hidCntl, p) := by
    unfold Device.channelOrFault
    rw [bind_run (show getSession dev.self p = .ok (p.sessions dev.self, p) from rfl), found]
    rfl
  have stored : modifySession dev.self (fun wiimote =>
      wiimote.setChannel .hidCntl { wiimote.channel .hidCntl with valid := false }) p =
      .ok ((), { p with sessions := (p.closed dev ident dcid scid).sessions }) := rfl
  have injected := builds_disconnectRsp dev.conHandle ident dcid scid
    { p with sessions := (p.closed dev ident dcid scid).sessions } junk allocates
  rw [@Endpoint.Clear.deliver
    { p with sessions := (p.closed dev ident dcid scid).sessions } clear] at injected
  unfold Device.handleDisconnectReq
  rw [bind_run looked, bind_run stored]
  exact bind_run injected

theorem onDevice_run {α : Type} {w : WiimoteId} {body : Device → P α} {s : World} {a : α}
    {q : Periphery} (run : body ⟨s.core, w⟩ s.periphery = .ok (a, q)) :
    onDevice w body s = .ok (a, { s with periphery := q }) := by
  unfold onDevice withPeriphery zoom
  dsimp only
  rw [run]

theorem collects {e : Endpoint} {ready : InjMessage} (msg : IpcMessage) (pending : e.pendingQ = [])
    (holds : e.readyQ = [.injected ready]) :
    ∃ t, e.receiveMessage msg = .ok (t, none) ∧ t.pendingQ = [] ∧ t.readyQ = [] := by
  refine ⟨(Endpoint.copyAndAckIpcmessage { e with requests := e.requests ++ [msg], readyQ := [] } msg
    (.injected ready)).1, ?_, ?_, ?_⟩
  · unfold Endpoint.receiveMessage Endpoint.handleBulkIntrPendingMessage
    simp only [holds]
    rfl
  · simpa using pending
  · simp

/-- The state of the fake Wiimote whose control channel is opened again and again. -/
structure Cycling (count : Nat) (s : World) : Prop where
  reached : Run .lenient anyInput s
  active : (s.core.links 0).active = true
  complete : (s.core.links 0).basebandState = .complete
  handle : (s.core.links 0).hciConHandle = 0
  alone : (s.core.links 1).active = false
  assigned : (s.core.slots 0).assignedWiimote = some 0
  unplugged : (s.core.slots 1).device = none
  linking : (s.periphery.sessions 0).aclState = .linking
  sdp : (s.periphery.sessions 0).psmSdpChn.valid = false
  intr : (s.periphery.sessions 0).psmHidIntrChn.valid = false
  pending : s.periphery.bulkIn.pendingQ = []
  next : s.periphery.startingId = channelId count
  memory : s.periphery.heap.outcome = Environment.lenient.heap

theorem Cycling.clear {count : Nat} {s : World} (cycling : Cycling count s)
    (ready : s.periphery.bulkIn.readyQ = []) : s.periphery.bulkIn.Clear := by
  have limits := cycling.reached.limits .bulkIn
  simp only [Endpoint.limits, World.endpoint, World.init, Environment.lenient, Endpoint.init,
    Prod.mk.injEq] at limits
  obtain ⟨room, -, refuses⟩ := limits
  exact ⟨cycling.pending, ready, by omega, by rw [refuses]⟩

theorem Cycling.allocates {count : Nat} {s : World} (cycling : Cycling count s) :
    s.periphery.heap.outcome s.periphery.heap.calls = some fun _ => 0 := by
  rw [cycling.memory]
  rfl

theorem Cycling.collect {count : Nat} {s : World} {ready : InjMessage} (cycling : Cycling count s)
    (holds : s.periphery.bulkIn.readyQ = [.injected ready]) :
    ∃ t, Cycling count t ∧ t.periphery.bulkIn.readyQ = [] ∧
      t.periphery.sessions = s.periphery.sessions := by
  obtain ⟨e, received, pending, empty⟩ := collects ⟨0, 0, 64⟩ cycling.pending holds
  have asked : step s (.bufferRequest .bulkIn ⟨0, 0, 64⟩) =
      .ok { s with periphery := { s.periphery with bulkIn := e } } := by
    simp only [step, handleInput, handleBufferRequest, bind_run (get_run s), World.endpoint,
      received, bind_run (lift_run_ok _ s)]
    rfl
  have possible : Possible s (.bufferRequest .bulkIn ⟨0, 0, 64⟩) := trivial
  exact ⟨_, { cycling with
    reached := .next cycling.reached ⟨possible, trivial⟩ asked
    pending := pending }, empty, rfl⟩

theorem Slot.tick_assigned {slot : Slot} {w : WiimoteId} (assigned : slot.assignedWiimote = some w) :
    slot.tick = slot := by
  unfold Slot.tick
  rw [if_neg (by simp [assigned])]

theorem Slot.tick_empty {slot : Slot} (empty : slot.device = none) : slot.tick = slot := by
  unfold Slot.tick
  rw [if_neg (by simp [empty])]

theorem modifySlot_same {s : World} {d : SlotId} {f : Slot → Slot}
    (same : f (s.core.slots d) = s.core.slots d) : modifySlot d f s = .ok ((), s) := by
  have slots : Function.update s.core.slots d (f (s.core.slots d)) = s.core.slots := by
    rw [same, Function.update_eq_self]
  change Except.ok ((), { s with core := { s.core with
    slots := Function.update s.core.slots d (f (s.core.slots d)) } }) = _
  rw [slots]

theorem Cycling.noUnassigned {count : Nat} {s : World} (cycling : Cycling count s) :
    inputDeviceGetUnassigned s.core = none := by
  simp [inputDeviceGetUnassigned, cycling.assigned, cycling.unplugged]

theorem Cycling.slots {count : Nat} {s : World} (cycling : Cycling count s) :
    inputDevicesTick s = .ok ((), s) := by
  unfold inputDevicesTick
  rw [bind_run (modifySlot_same (Slot.tick_assigned cycling.assigned))]
  exact modifySlot_same (Slot.tick_empty cycling.unplugged)

theorem Cycling.assigns {count : Nat} {s : World} (cycling : Cycling count s) :
    fakeWiimoteMgrCheckAssignInputDevices s = .ok ((), s) := by
  have first : checkAssignInputDevice 0 s = .ok ((), s) := by
    unfold checkAssignInputDevice
    rw [bind_run (get_run s), if_pos cycling.active]
    rfl
  unfold fakeWiimoteMgrCheckAssignInputDevices
  rw [bind_run first]
  unfold checkAssignInputDevice
  rw [bind_run (get_run s), if_neg (by simp [cycling.alone]), cycling.noUnassigned]
  rfl

theorem inject_outcome {heap : Heap} {endpoint : Endpoint} {packet : Packet} {done : Injection}
    (run : inject heap endpoint packet = .ok done) : done.heap.outcome = heap.outcome := by
  rcases inject_cases run with ⟨-, rfl⟩ | ⟨junk, bytes, rest, -, -, -, rfl⟩
  · rfl
  · rfl

theorem injectHciEvent_heap {s t : World} {event eventSize : UInt8} {fields : List UInt8}
    {ret : IosResult} (run : injectHciEvent event eventSize fields s = .ok (ret, t)) :
    t.core = s.core ∧ ∃ heap, heap.outcome = s.periphery.heap.outcome ∧
      t.periphery = { s.periphery with heap := heap } := by
  obtain ⟨_, _, got, run⟩ := bind_ok.mp run
  cases got
  obtain ⟨done, _, first, run⟩ := bind_ok.mp run
  obtain ⟨injected, rfl⟩ := lift_ok.mp first
  cases run
  exact ⟨rfl, done.heap, inject_outcome injected, rfl⟩

def Link.counted (link : Link) : Link :=
  if link.isConnected then { link with numCompletedAclDataPackets := 0 } else link

theorem completedPackets_run (s : World) :
    ∃ t, fakeWiimoteMgrSendEventNumberOfCompletedPackets s = .ok ((), t) ∧
      t.core = (s.core.setLink 0 Link.counted).setLink 1 Link.counted ∧
      ∃ heap, heap.outcome = s.periphery.heap.outcome ∧
        t.periphery = { s.periphery with heap := heap } := by
  let links := connectedLinks s.core
  let reset : World :=
    { s with core := (s.core.setLink 0 Link.counted).setLink 1 Link.counted }
  have few : links.length ≤ 2 := List.length_filter_le _ [s.core.links 0, s.core.links 1]
  have resets : fakeWiimoteMgrSendEventNumberOfCompletedPackets s =
      (when ((links.map (·.numCompletedAclDataPackets)).foldl (· + ·) 0 > 0) (do
        let _ ← injectHciEventNumComplPkts (links.map numComplPktsEntry)) : M Unit) reset := rfl
  rw [resets]
  unfold when
  split
  · have size : (UInt8.ofNat links.length).toNat = links.length := by
      rw [UInt8.toNat_ofNat_of_lt']
      exact Nat.lt_of_le_of_lt few (by decide)
    obtain ⟨ret, t, run, -⟩ := injectHciEvent_run reset hciEventNumComplPkts
      (1 + UInt8.ofNat (links.map numComplPktsEntry).length * 4)
      ([UInt8.ofNat (links.map numComplPktsEntry).length] ++
        (links.map numComplPktsEntry).flatMap fun e =>
          bytes16 (htole16 e.1) ++ bytes16 (htole16 e.2))
      (by
        rw [List.length_append, List.length_singleton, List.length_flatMap, List.length_map]
        simp [Function.comp_def, UInt8.toNat_add, UInt8.toNat_mul, size]
        omega)
    obtain ⟨core, memory⟩ := injectHciEvent_heap run
    exact ⟨t, bind_run run, core, memory⟩
  · exact ⟨reset, rfl, rfl, s.periphery.heap, rfl, rfl⟩

theorem Link.counted_fields (link : Link) :
    link.counted.active = link.active ∧ link.counted.basebandState = link.basebandState ∧
      link.counted.hciConHandle = link.hciConHandle := by
  unfold Link.counted
  split
  · exact ⟨rfl, rfl, rfl⟩
  · exact ⟨rfl, rfl, rfl⟩

theorem Cycling.open {count : Nat} {s : World} (cycling : Cycling count s)
    (ready : s.periphery.bulkIn.readyQ = [])
    (cntl : (s.periphery.sessions 0).psmHidCntlChn.valid = false) :
    ∃ t, step s (.timer []) = .ok t ∧ Cycling (count + 1) t ∧
      (∃ msg, t.periphery.bulkIn.readyQ = [.injected msg]) ∧
      (t.periphery.sessions 0).psmHidCntlChn = .setup l2capPsmHidCntl (channelId count) := by
  let dev : Device := ⟨s.core, 0⟩
  have opened := @tickConnected_opens dev _ _ cycling.linking cntl cycling.intr cycling.allocates
    (cycling.clear ready)
  let s1 : World := { s with periphery := s.periphery.opened dev }
  have first : tickActive 0 s = .ok ((), s1) := by
    have link : getLink 0 s = .ok (s.core.links 0, s) := rfl
    unfold tickActive
    rw [bind_run link, when, if_pos cycling.active]
    unfold fakeWiimoteTick
    rw [bind_run (get_run s)]
    simp only [cycling.complete]
    exact onDevice_run opened
  have second : tickActive 1 s1 = .ok ((), s1) := by
    have link : getLink 1 s1 = .ok (s.core.links 1, s1) := rfl
    unfold tickActive
    rw [bind_run link, when, if_neg (by simp [cycling.alone])]
    rfl
  obtain ⟨t, third, core, heap, outcome, periphery⟩ := completedPackets_run s1
  have assigning : (when (hciCanRequestConnection s.core.hci)
      fakeWiimoteMgrCheckAssignInputDevices : M Unit) s = .ok ((), s) := by
    unfold when
    split
    · exact cycling.assigns
    · rfl
  have ticked : periodicTimer [] s = .ok ((), t) := by
    unfold periodicTimer egcHandleEvents fakeWiimoteMgrTickDevices
    rw [bind_run (show (pure () : M Unit) s = .ok ((), s) from rfl), bind_run cycling.slots,
      bind_run (get_run s), bind_run assigning, bind_run first, bind_run second]
    exact third
  have stepped : step s (.timer []) = .ok t := by
    simp only [step, handleInput, ticked]
  have links : t.core.links 0 = (s.core.links 0).counted ∧
      t.core.links 1 = (s.core.links 1).counted := by
    rw [core]
    exact ⟨rfl, rfl⟩
  have slots : t.core.slots = s.core.slots := by
    rw [core]
    rfl
  have fields := (s.core.links 0).counted_fields
  have session : t.periphery.sessions 0 = (s.periphery.sessions 0).setChannel .hidCntl
      (.setup l2capPsmHidCntl s.periphery.startingId) := by
    rw [periphery]
    exact Function.update_self (0 : WiimoteId) _ s.periphery.sessions
  have possible : Possible s (.timer []) := trivial
  refine ⟨t, stepped, ?_, ⟨s.periphery.heap.message (requestPacket dev s.periphery), ?_⟩, ?_⟩
  · exact {
      reached := .next cycling.reached ⟨possible, trivial⟩ stepped
      active := by rw [links.1, fields.1, cycling.active]
      complete := by rw [links.1, fields.2.1, cycling.complete]
      handle := by rw [links.1, fields.2.2, cycling.handle]
      alone := by rw [links.2, (s.core.links 1).counted_fields.1, cycling.alone]
      assigned := by rw [slots, cycling.assigned]
      unplugged := by rw [slots, cycling.unplugged]
      linking := by rw [session]; exact cycling.linking
      sdp := by rw [session]; exact cycling.sdp
      intr := by rw [session]; exact cycling.intr
      pending := by rw [periphery]; exact cycling.pending
      next := by
        rw [periphery, channelId_succ, ← cycling.next]
        rfl
      memory := by
        rw [periphery]
        exact outcome.trans cycling.memory }
  · rw [periphery]
    rfl
  · rw [session, cycling.next]
    rfl

def closingCommand (id : UInt16) : List UInt8 :=
  l2capCommand l2capDisconnectReq 1 (disconnectPayload id 0x60)

theorem closingCommand_loads (id : UInt16) :
    load8 (closingCommand id) 0 = .ok l2capDisconnectReq ∧ load8 (closingCommand id) 1 = .ok 1 ∧
      load16 (closingCommand id) 2 = .ok (htole16 4) ∧
      (closingCommand id).drop l2capCmdHdrSize = disconnectPayload id 0x60 :=
  ⟨rfl, rfl, load16_append [l2capDisconnectReq, 1] _ _, rfl⟩

theorem closingPacket_loads (id : UInt16) :
    load16 (aclPacket 0 (l2capFrame l2capSignalCid (closingCommand id))) 0 =
        .ok (htole16 (hciMkConHandle 0 hciPacketStart hciPoint2Point)) ∧
      load16 (aclPacket 0 (l2capFrame l2capSignalCid (closingCommand id))) hciAclDataHdrSize =
        .ok (htole16 8) ∧
      load16 (aclPacket 0 (l2capFrame l2capSignalCid (closingCommand id)))
        (hciAclDataHdrSize + 2) = .ok (htole16 l2capSignalCid) ∧
      (aclPacket 0 (l2capFrame l2capSignalCid (closingCommand id))).drop
        (hciAclDataHdrSize + l2capHdrSize) = closingCommand id :=
  ⟨rfl, load16_of_bytes rfl rfl, rfl, rfl⟩

theorem signal_ends {w : WiimoteId} {fuel : Nat} {data : List UInt8} {length : UInt16} {s : World}
    (short : length.toNat < l2capCmdHdrSize) :
    handleL2capSignalChannelRequest w (fuel + 1) data length s = .ok ((), s) := by
  unfold handleL2capSignalChannelRequest
  rw [if_pos short]
  rfl

theorem closingCommand_run {s : World} {q : Periphery} {id : UInt16}
    (closed : Device.handleDisconnectReq ⟨s.core, 0⟩ 1 id 0x60 s.periphery = .ok ((), q)) :
    handleL2capSignalChannelRequest 0 ((closingCommand id).length + 1) (closingCommand id) 8 s =
      .ok ((), { s with periphery := q }) := by
  obtain ⟨code, ident, size, rest⟩ := closingCommand_loads id
  have first : load16 (disconnectPayload id 0x60) 0 = .ok (htole16 id) := load16_append [] _ _
  have second : load16 (disconnectPayload id 0x60) 2 = .ok (htole16 0x60) :=
    load16_append (bytes16 (htole16 id)) [] _
  have handled : handleL2capSignalChannel 0 l2capDisconnectReq 1 (disconnectPayload id 0x60) 4 s =
      .ok ((), { s with periphery := q }) := by
    unfold handleL2capSignalChannel
    rw [if_neg (by decide), if_neg (by decide), if_neg (by decide), if_pos rfl, first, second]
    rw [bind_run (lift_run_ok _ s), bind_run (lift_run_ok _ s), le16toh_htole16, le16toh_htole16]
    exact onDevice_run closed
  unfold handleL2capSignalChannelRequest
  rw [if_neg (by decide), code, ident, size, rest, bind_run (lift_run_ok _ s),
    bind_run (lift_run_ok _ s), bind_run (lift_run_ok _ s), le16toh_htole16, bind_run handled]
  exact signal_ends (by decide)

theorem Cycling.close {count : Nat} {s : World} (cycling : Cycling count s) {id : UInt16}
    (ready : s.periphery.bulkIn.readyQ = [])
    (cntl : (s.periphery.sessions 0).psmHidCntlChn = .setup l2capPsmHidCntl id) :
    ∃ t, Cycling count t ∧ (∃ msg, t.periphery.bulkIn.readyQ = [.injected msg]) ∧
      (t.periphery.sessions 0).psmHidCntlChn.valid = false := by
  let s1 : World := { s with core := s.core.setLink 0 fun link =>
    { link with numCompletedAclDataPackets := link.numCompletedAclDataPackets + 1 } }
  let dev : Device := ⟨s1.core, 0⟩
  have found : (s.periphery.sessions 0).getChannelInfo id = some .hidCntl := by
    simp [Session.getChannelInfo, cycling.sdp, cntl, L2capChannelInfo.setup]
  have closed := @handleDisconnectReq_closes dev _ _ 1 id 0x60 found cycling.allocates
    (cycling.clear ready)
  let t : World := { s1 with periphery := s.periphery.closed dev 1 id 0x60 }
  obtain ⟨handle, length, dcid, command⟩ := closingPacket_loads id
  have packet : fakeWiimoteHandleAclDataOutRequestFromHost 0
      (aclPacket 0 (l2capFrame l2capSignalCid (closingCommand id))) s = .ok ((), t) := by
    have counted : modifyLink 0 (fun link =>
        { link with numCompletedAclDataPackets := link.numCompletedAclDataPackets + 1 }) s =
        .ok ((), s1) := rfl
    unfold fakeWiimoteHandleAclDataOutRequestFromHost
    rw [bind_run counted, length, dcid, command, bind_run (lift_run_ok _ s1),
      bind_run (lift_run_ok _ s1), le16toh_htole16, le16toh_htole16, if_pos rfl]
    exact closingCommand_run closed
  have owned : getFakeWiimoteForHciConHandle s.core 0 = some 0 := by
    simp [getFakeWiimoteForHciConHandle, Link.isConnected, cycling.active, cycling.complete,
      cycling.handle]
  have stepped : step s (signalling (closingCommand id)) = .ok t := by
    have managed : fakeWiimoteMgrHandleAclDataOutRequestFromHost 0
        (aclPacket 0 (l2capFrame l2capSignalCid (closingCommand id))) s = .ok (true, t) := by
      unfold fakeWiimoteMgrHandleAclDataOutRequestFromHost
      rw [bind_run (get_run s), owned]
      exact bind_run packet
    have virt : hciConHandle (le16toh
        (htole16 (hciMkConHandle 0 hciPacketStart hciPoint2Point))) = 0 := by decide
    have handled : hciStateHandleAclDataOutRequestFromHost
        (aclPacket 0 (l2capFrame l2capSignalCid (closingCommand id))) s =
        .ok ((false, aclPacket 0 (l2capFrame l2capSignalCid (closingCommand id))), t) := by
      unfold hciStateHandleAclDataOutRequestFromHost
      rw [handle, bind_run (lift_run_ok _ s), virt, bind_run managed]
      rfl
    simp only [step, handleInput, signalling]
    rw [bind_run handled]
    rfl
  have session : t.periphery.sessions 0 = (s.periphery.sessions 0).setChannel .hidCntl
      { (s.periphery.sessions 0).psmHidCntlChn with valid := false } :=
    Function.update_self (0 : WiimoteId) _ s.periphery.sessions
  have possible : Possible s (signalling (closingCommand id)) := trivial
  refine ⟨t, ?_, ⟨_, rfl⟩, by rw [session]; rfl⟩
  exact { cycling with
    reached := .next cycling.reached ⟨possible, trivial⟩ stepped
    linking := by rw [session]; exact cycling.linking
    sdp := by rw [session]; exact cycling.sdp
    intr := by rw [session]; exact cycling.intr }

theorem Cycling.cycle {count : Nat} {s : World} (cycling : Cycling count s)
    (ready : s.periphery.bulkIn.readyQ = [])
    (cntl : (s.periphery.sessions 0).psmHidCntlChn.valid = false) :
    ∃ t, Cycling (count + 1) t ∧ t.periphery.bulkIn.readyQ = [] ∧
      (t.periphery.sessions 0).psmHidCntlChn.valid = false := by
  obtain ⟨s1, -, opened, ⟨request, holds⟩, valid⟩ := cycling.open ready cntl
  obtain ⟨s2, asked, empty, same⟩ := opened.collect holds
  obtain ⟨s3, closed, ⟨response, holds⟩, invalid⟩ := asked.close empty (by rw [same, valid])
  obtain ⟨t, answered, empty, same⟩ := closed.collect holds
  exact ⟨t, answered, empty, by rw [same, invalid]⟩

def acceptedAlone : Option World :=
  execute step (fun s input => decide (Possible s input ∧ anyInput s input)) (World.init .lenient)
    [writeScanEnable, .timer [.added (plainDevice 1)], acceptCon 0]

theorem exists_cycling (count : Nat) : ∃ s, Cycling count s ∧ s.periphery.bulkIn.readyQ = [] ∧
    (s.periphery.sessions 0).psmHidCntlChn.valid = false := by
  induction count with
  | zero =>
      have checked : acceptedAlone.any (fun s => decide (
          (s.core.links 0).active = true ∧ (s.core.links 0).basebandState = .complete ∧
          (s.core.links 0).hciConHandle = 0 ∧ (s.core.links 1).active = false ∧
          (s.core.slots 0).assignedWiimote = some 0 ∧ (s.core.slots 1).device = none ∧
          (s.periphery.sessions 0).aclState = .linking ∧
          (s.periphery.sessions 0).psmSdpChn.valid = false ∧
          (s.periphery.sessions 0).psmHidIntrChn.valid = false ∧
          s.periphery.bulkIn.pendingQ = [] ∧ s.periphery.startingId = channelId 0 ∧
          s.periphery.bulkIn.readyQ = [] ∧
          (s.periphery.sessions 0).psmHidCntlChn.valid = false)) = true := by decide +kernel
      have memory : acceptedAlone.map (·.periphery.heap.outcome) = some Environment.lenient.heap :=
        rfl
      rcases executed : acceptedAlone with _ | s
      · rw [executed] at checked
        cases checked
      · rw [executed] at checked memory
        have reached : Run .lenient anyInput s :=
          reachable_execute (fun _ _ ok => of_decide_eq_true ok) .start executed
        obtain ⟨active, complete, handle, alone, assigned, unplugged, linking, sdp, intr, pending,
          next, ready, cntl⟩ := of_decide_eq_true checked
        exact ⟨s, ⟨reached, active, complete, handle, alone, assigned, unplugged, linking, sdp, intr,
          pending, next, Option.some.inj memory⟩, ready, cntl⟩
  | succ count ih =>
      obtain ⟨s, cycling, ready, cntl⟩ := ih
      exact cycling.cycle ready cntl

/-- The host disconnects the control channel 65472 times, as soon as it is asked for. The next time
that the fake Wiimote asks for it, it is with the null identifier. -/
theorem null_channel_id_drawn :
    ∃ s t, Run .lenient anyInput s ∧ step s (.timer []) = .ok t ∧
      s.periphery.startingId = l2capNullCid ∧
      (t.periphery.sessions 0).psmHidCntlChn.valid = true ∧
      (t.periphery.sessions 0).psmHidCntlChn.localCid = l2capNullCid := by
  obtain ⟨s, cycling, ready, cntl⟩ := exists_cycling channelIdCount
  obtain ⟨t, stepped, -, -, opened⟩ := cycling.open ready cntl
  refine ⟨s, t, cycling.reached, stepped, cycling.next.trans channelId_wraps, ?_, ?_⟩
  · rw [opened]
    rfl
  · rw [opened]
    exact channelId_wraps

end Fakemote
