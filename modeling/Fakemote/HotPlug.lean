import Fakemote.ExtensionAgreement
import Fakemote.HidReports

/-! Extensions that come and go while the Wiimote is connected. -/

namespace Fakemote

open Bytes Program Transition Labelled History

/-- Once data reports are disabled, the host alone enables them. -/
theorem Deed.session_disabled {egc : Platform} {deed : Deed}
    (other : ∀ id continuous, deed ≠ .mode id continuous) (wiimote : Session)
    (disabled : wiimote.reportingMode = inputReportIdReportDisabled) :
    (deed.session egc wiimote).reportingMode = inputReportIdReportDisabled := by
  have channel (chn : Channel) (info : L2capChannelInfo) :
      (wiimote.setChannel chn info).reportingMode = inputReportIdReportDisabled := by
    cases chn <;> exact disabled
  cases deed with
  | request chn psm localCid => exact channel _ _
  | configure chn placed =>
      cases placed with
      | true => exact channel _ _
      | false => exact disabled
  | recordCid chn remoteCid => exact channel _ _
  | recordMtu chn mtu ident options placed => exact channel _ _
  | complete chn => exact channel _ _
  | close chn ident dcid scid placed => exact channel _ _
  | mode id continuous => exact absurd rfl (other id continuous)
  | chunk placed =>
      obtain ⟨key, dirty, request, same⟩ := afterChunk_session egc.memory wiimote
      have after := congrArg Session.reportingMode same
      exact after.trans disabled
  | write data placed =>
      obtain ⟨irRegs, extensionRegs, dirty, eeprom, same⟩ :=
        Device.writeMemory_session wiimote data
      have after := congrArg Session.reportingMode same
      exact after.trans disabled
  | change padding placed => rfl
  | feed d v ext input accelerometer irDots =>
      obtain ⟨accX, accY, accZ, ir, buttons, dirty, regs, same⟩ :=
        feed_session egc wiimote d v ext input accelerometer irDots
      have after := congrArg Session.reportingMode same
      exact after.trans disabled
  | report placed =>
      obtain ⟨key, dirty, same⟩ := report_session egc wiimote placed
      have after := congrArg Session.reportingMode same
      exact after.trans disabled
  | _ => exact disabled

theorem Air.act_disabled {egc : Platform} {dev : Device} {a : Air} {deed : Deed} {w : WiimoteId}
    (other : ∀ id continuous, deed ≠ .mode id continuous)
    (disabled : (a.sessions w).reportingMode = inputReportIdReportDisabled) :
    ((a.act egc dev deed).sessions w).reportingMode = inputReportIdReportDisabled := by
  dsimp only [Air.act]
  by_cases target : w = deed.target dev.self
  · subst target
    rw [Function.update_self]
    exact Deed.session_disabled other _ disabled
  · rw [Function.update_of_ne target]
    exact disabled

theorem Taken.disabled {w : WiimoteId} {s t : World} {e : Exchange} (taken : Taken w s e t)
    (other : e.turn.reportId (s.periphery.sessions w) ≠ some outputReportIdReportMode)
    (disabled : (s.periphery.sessions w).reportingMode = inputReportIdReportDisabled) :
    (t.periphery.sessions w).reportingMode = inputReportIdReportDisabled ∧
      ∀ reply ∈ e.sent, ¬ reply.IsDataReport := by
  cases taken with
  | elsewhere session platform =>
      refine ⟨by rw [session, disabled], ?_⟩
      intro reply sent
      cases sent
  | setExtension core session platform =>
      refine ⟨by rw [session]; exact disabled, ?_⟩
      intro reply sent
      cases sent
  | @deeds turn deeds q performed shape placed =>
      have modeless : ∀ deed ∈ deeds, ∀ id continuous, deed ≠ .mode id continuous := by
        intro deed member id continuous same
        subst same
        exact other (shape.askedBy member rfl)
      constructor
      · apply performed.path.kept
          (fun a => (a.sessions w).reportingMode = inputReportIdReportDisabled) disabled
        intro a deed member disabled _
        exact Air.act_disabled (modeless deed member) disabled
      · apply performed.path.emitted_all
          (fun a => (a.sessions w).reportingMode = inputReportIdReportDisabled)
          (fun reply : Reply => ¬ reply.IsDataReport) disabled
        · intro a deed member disabled _
          exact Air.act_disabled (modeless deed member) disabled
        · intro a deed member disabled enabled reply sent
          have quiet : ∀ placed, deed ≠ .report placed := by
            intro placed same
            subst same
            exact enabled.1 disabled
          unfold Air.emits at sent
          split at sent
          · obtain ⟨data, packet, rfl⟩ := List.mem_map.mp sent
            exact Deed.packet_report (Option.mem_toList.mp packet) quiet (shape.padded deed member)
          · cases sent

theorem Air.act_curExtension {egc : Platform} {dev : Device} {a : Air} {deed : Deed}
    (unchanged : ∀ padding placed, deed ≠ .change padding placed) (w : WiimoteId) :
    ((a.act egc dev deed).sessions w).curExtension = (a.sessions w).curExtension := by
  by_cases switches : ∃ d v ext, deed = .switch d v ext
  · obtain ⟨d, v, ext, rfl⟩ := switches
    dsimp only [Air.act, Deed.target]
    by_cases target : w = v
    · subst target
      rw [Function.update_self]
      rfl
    · rw [Function.update_of_ne target]
  · have ports : ((a.act egc dev deed).sessions w).ports = (a.sessions w).ports :=
      Air.act_ports (fun d v ext same => switches ⟨d, v, ext, same⟩) unchanged w
    exact congrArg Prod.fst ports

def restingData : WiimoteExt → List UInt8
  | .nunchuk => bmNunchukFormat 0 (fun _ => 0x80) 0 0 0 ++ List.replicate 15 0
  | .classic => bmClassicFormat 0 (fun _ => 0x80) ++ List.replicate 15 0
  | _ => List.replicate controllerDataBytes 0

theorem reset_rests (wiimote : Session) :
    wiimote.fakeWiimoteResetExtensionState.extensionRegs.read controllerDataOffset
      controllerDataBytes = restingData wiimote.curExtension := by
  unfold Session.fakeWiimoteResetExtensionState
  dsimp only
  cases wiimote.curExtension <;> rfl

/-- A step that changes the extension: one end of it is no extension, it is a tick that sends one
status report and nothing else, and the new extension is at rest. -/
structure Announced (e : Exchange) (before after : Session) : Prop where
  detached : before.curExtension = .none ∨ after.curExtension = .none
  tick : e.turn = .tick
  status : ∃ reply body, e.sent = [reply] ∧ reply.report = some (inputReportIdStatus, body) ∧
    body.length = 6 ∧ extensionBit body = decide (after.curExtension ≠ .none)
  identified : after.Identified
  rests : after.extensionRegs.read controllerDataOffset controllerDataBytes =
    restingData after.curExtension

/-- Either the extension in use stays, or it changes in a tick, with a status report. -/
theorem Taken.changes {w : WiimoteId} {s t : World} {e : Exchange} (taken : Taken w s e t) :
    (t.periphery.sessions w).curExtension = (s.periphery.sessions w).curExtension ∨
    (e.turn = .tick ∧
      (s.periphery.sessions w).newExtension ≠ (s.periphery.sessions w).curExtension ∧
      t.periphery.sessions w = (s.periphery.sessions w).afterChange ∧
      ∃ padding data, padding.length = 2 ∧ e.sent = [⟨data.length, data⟩] ∧
        data = statusPacket (s.core.links w).hciConHandle (s.periphery.sessions w).afterChange
          padding) := by
  cases taken with
  | elsewhere session platform => exact Or.inl (by rw [session])
  | setExtension core session platform => exact Or.inl (by rw [session]; rfl)
  | @deeds turn deeds q performed shape placed =>
      by_cases found : ∃ padding placed, Deed.change padding placed ∈ deeds
      · obtain ⟨padding, sent, member⟩ := found
        have length : padding.length = 2 := shape.padded _ member
        obtain ⟨rfl, rfl⟩ := shape.change member
        have reached : sent = true := placed _ member rfl
        subst reached
        have after : q.air = _ := performed.path.2
        have session := congrArg (fun a : Air => a.sessions w) after
        refine Or.inr ⟨rfl, performed.path.1, session.trans (Function.update_self _ _ _), ?_⟩
        exact ⟨padding, _, length, rfl, rfl⟩
      · left
        apply performed.path.kept
          (fun a => (a.sessions w).curExtension = (s.periphery.sessions w).curExtension) rfl
        intro a deed member same _
        rw [Air.act_curExtension _ w, same]
        intro padding placed change
        subst change
        exact found ⟨padding, placed, member⟩

theorem Taken.announced {w : WiimoteId} {s t : World} {e : Exchange} (taken : Taken w s e t)
    (changed : (t.periphery.sessions w).curExtension ≠ (s.periphery.sessions w).curExtension) :
    Announced e (s.periphery.sessions w) (t.periphery.sessions w) ∧
      (t.periphery.sessions w).reportingMode = inputReportIdReportDisabled := by
  rcases taken.changes with same | ⟨tick, -, session, padding, data, length, sent, packet⟩
  · exact absurd same changed
  · obtain ⟨body, read, size, bit⟩ :=
      statusPacket_report (s.core.links w).hciConHandle (s.periphery.sessions w).afterChange length
    rw [← packet] at read
    rw [session]
    refine ⟨⟨?_, tick, ⟨_, body, sent, read, size, bit⟩, reset_identifies _, reset_rests _⟩, rfl⟩
    have ports := congrArg Prod.fst (afterChange_ports (s.periphery.sessions w))
    by_cases none : (s.periphery.sessions w).curExtension = .none
    · exact Or.inl none
    · exact Or.inr (ports.trans (if_neg none))

def extensionDistance (current requested : WiimoteExt) : Nat :=
  if current = requested then 0 else if current = .none ∨ requested = .none then 1 else 2

theorem extensionDistance_le (current requested : WiimoteExt) :
    extensionDistance current requested ≤ 2 := by
  unfold extensionDistance
  split
  · omega
  · split <;> omega

theorem extensionDistance_change {current requested : WiimoteExt} (different : requested ≠ current) :
    extensionDistance (if current = .none then requested else .none) requested + 1 =
      extensionDistance current requested := by
  unfold extensionDistance
  cases current <;> cases requested <;> first | exact absurd rfl different | decide

theorem Deed.session_aclState {egc : Platform} {deed : Deed} {wiimote : Session}
    (acl : wiimote.aclState ≠ .linking) : (deed.session egc wiimote).aclState ≠ .linking := by
  have channel (chn : Channel) (info : L2capChannelInfo) :
      (wiimote.setChannel chn info).aclState ≠ .linking := by
    cases chn <;> exact acl
  by_cases links : deed.links = true
  · cases deed with
    | request chn psm localCid => exact channel _ _
    | configure chn placed =>
        cases placed with
        | true => exact channel _ _
        | false => exact acl
    | finish => exact fun h => by cases h
    | recordCid chn remoteCid => exact channel _ _
    | recordMtu chn mtu ident options placed => exact channel _ _
    | complete chn => exact channel _ _
    | close chn ident dcid scid placed => exact channel _ _
    | _ => cases links
  · have linkage : (deed.session egc wiimote).linkage = wiimote.linkage :=
      Deed.session_linkage (eq_false_of_ne_true links) wiimote
    have same : (deed.session egc wiimote).aclState = wiimote.aclState := congrArg Prod.fst linkage
    rw [same]
    exact acl

theorem Taken.aclState {w : WiimoteId} {s t : World} {e : Exchange} (taken : Taken w s e t)
    (acl : (s.periphery.sessions w).aclState ≠ .linking) :
    (t.periphery.sessions w).aclState ≠ .linking := by
  cases taken with
  | elsewhere session platform => rwa [session]
  | setExtension core session platform =>
      rw [session]
      exact acl
  | deeds performed shape placed =>
      apply performed.path.kept (fun a => (a.sessions w).aclState ≠ .linking) acl
      intro a deed member acl _
      dsimp only [Air.act]
      by_cases target : w = deed.target w
      · rw [← target, Function.update_self]
        exact Deed.session_aclState acl
      · rw [Function.update_of_ne target]
        exact acl

theorem Taken.tick {w : WiimoteId} {s t : World} {e : Exchange} (taken : Taken w s e t)
    (tick : e.turn.isTick = true) (acl : (s.periphery.sessions w).aclState ≠ .linking)
    (idle : (s.periphery.sessions w).readRequest.size = 0) :
    (s.periphery.sessions w).newExtension = (s.periphery.sessions w).curExtension ∨
    ((s.periphery.sessions w).newExtension ≠ (s.periphery.sessions w).curExtension ∧
      t.periphery.sessions w = (s.periphery.sessions w).afterChange) := by
  cases taken with
  | elsewhere session platform => cases tick
  | setExtension core session platform => cases tick
  | deeds performed shape placed =>
      cases shape with
      | linking linking shape => exact absurd linking acl
      | reports acl shape =>
          cases shape with
          | chunk pending => exact absurd idle pending
          | change idle different length =>
              have after := performed.path.2
              have session := congrArg (fun a : Air => a.sessions w) after
              exact Or.inr ⟨different, session.trans (Function.update_self _ _ _)⟩
          | switch idle same => exact Or.inl same
          | feed idle same => exact Or.inl same
          | report idle same => exact Or.inl same
      | _ => cases tick

/-- With no read in progress a tick brings the extension closer to the one that is asked for. -/
theorem Taken.closer {w : WiimoteId} {s t : World} {e : Exchange} {ext : WiimoteExt}
    (taken : Taken w s e t) (acl : (s.periphery.sessions w).aclState ≠ .linking)
    (requested : (s.periphery.sessions w).newExtension = ext)
    (idle : e.turn.isTick = true → (s.periphery.sessions w).readRequest.size = 0) :
    extensionDistance (t.periphery.sessions w).curExtension ext =
      extensionDistance (s.periphery.sessions w).curExtension ext - e.turn.isTick.toNat := by
  subst requested
  by_cases tick : e.turn.isTick = true
  · rw [tick]
    rcases taken.tick tick acl (idle tick) with agree | ⟨different, session⟩
    · have same : (t.periphery.sessions w).curExtension =
          (s.periphery.sessions w).curExtension := by
        rcases taken.changes with same | ⟨-, different, -⟩
        · exact same
        · exact absurd agree different
      rw [same, agree, extensionDistance, if_pos rfl]
      rfl
    · have nearer := extensionDistance_change different
      rw [session, ← nearer]
      rfl
  · rcases taken.changes with same | ⟨isTick, -⟩
    · rw [same, eq_false_of_ne_true tick]
      rfl
    · rw [isTick] at tick
      exact absurd rfl tick

def keepsMode (w : WiimoteId) (_ : List Exchange) (s : World) (e : Exchange) : Prop :=
  e.turn.reportId (s.periphery.sessions w) ≠ some outputReportIdReportMode

/-- One extension is asked for all the time, and ticks find no read in progress. -/
def asksFor (w : WiimoteId) (ext : WiimoteExt) (_ : List Exchange) (s : World) (e : Exchange) :
    Prop :=
  (s.periphery.sessions w).newExtension = ext ∧
    (e.turn.isTick = true → (s.periphery.sessions w).readRequest.size = 0)

def ticks (events : List Exchange) : Nat := events.countP fun e => e.turn.isTick

theorem silent_while_disabled {w : WiimoteId} {s t : World} {events : List Exchange}
    (trace : Trace (Exchanges w) (keepsMode w) s events t)
    (connected : (s.core.links w).isConnected = true)
    (disabled : (s.periphery.sessions w).reportingMode = inputReportIdReportDisabled) :
    ∀ e ∈ events, ∀ reply ∈ e.sent, ¬ reply.IsDataReport := by
  apply trace.always
    (fun _ s => (s.core.links w).isConnected = true ∧
      (s.periphery.sessions w).reportingMode = inputReportIdReportDisabled)
    (fun e => ∀ reply ∈ e.sent, ¬ reply.IsDataReport) ⟨connected, disabled⟩
  · intro events s e t holds keeps step
    exact ⟨step.connected, ((step.taken holds.1).disabled keeps holds.2).1⟩
  · intro events s e t holds keeps step
    exact ((step.taken holds.1).disabled keeps holds.2).2

theorem distance_after_ticks {w : WiimoteId} {s t : World} {events : List Exchange} {ext : WiimoteExt}
    (trace : Trace (Exchanges w) (asksFor w ext) s events t)
    (connected : (s.core.links w).isConnected = true)
    (acl : (s.periphery.sessions w).aclState ≠ .linking) :
    extensionDistance (t.periphery.sessions w).curExtension ext ≤ 2 - ticks events := by
  have holds := trace.invariant
    (fun events s => (s.core.links w).isConnected = true ∧
      (s.periphery.sessions w).aclState ≠ .linking ∧
      extensionDistance (s.periphery.sessions w).curExtension ext ≤ 2 - ticks events)
    ⟨connected, acl, extensionDistance_le _ _⟩
    (by
      intro events s e t ⟨connected, acl, close⟩ asks step
      have taken := step.taken connected
      refine ⟨step.connected, taken.aclState acl, ?_⟩
      have counted : ticks (events ++ [e]) = ticks events + e.turn.isTick.toNat := by
        unfold ticks
        rw [List.countP_append, List.countP_singleton]
        cases e.turn.isTick <;> rfl
      rw [taken.closer acl asks.1 asks.2, counted]
      omega)
  exact holds.2.2

/-- In every run of a connected fake Wiimote each change of the extension is announced and ends
data reports until the host sets the reporting mode again. When one extension is asked for, two
ticks without a read in progress suffice for it. -/
theorem extension_hot_plug (w : WiimoteId) (s : World)
    (connected : (s.core.links w).isConnected = true) :
    (∀ events t, Trace (Exchanges w) (fun _ _ _ => True) s events t →
      ∀ e u, Exchanges w t e u →
        (u.periphery.sessions w).curExtension ≠ (t.periphery.sessions w).curExtension →
        Announced e (t.periphery.sessions w) (u.periphery.sessions w) ∧
          ∀ later v, Trace (Exchanges w) (keepsMode w) u later v →
            ∀ e ∈ later, ∀ reply ∈ e.sent, ¬ reply.IsDataReport) ∧
    ∀ ext events t, (s.periphery.sessions w).aclState ≠ .linking →
      Trace (Exchanges w) (asksFor w ext) s events t → 2 ≤ ticks events →
      (t.periphery.sessions w).curExtension = ext := by
  constructor
  · intro events t trace e u step changed
    have still : (t.core.links w).isConnected = true :=
      trace.invariant (fun _ s => (s.core.links w).isConnected = true) connected
        (fun _ _ _ _ _ _ step => step.connected)
    obtain ⟨announced, disabled⟩ := (step.taken still).announced changed
    refine ⟨announced, ?_⟩
    intro later v trace
    exact silent_while_disabled trace step.connected disabled
  · intro ext events t acl trace enough
    have close := distance_after_ticks trace connected acl
    unfold extensionDistance at close
    by_contra different
    rw [if_neg different] at close
    split at close <;> omega

instance (w : WiimoteId) (ext : WiimoteExt) (events : List Exchange) (s : World) (e : Exchange) :
    Decidable (asksFor w ext events s e) :=
  inferInstanceAs (Decidable (_ ∧ _))

/-- The tick after the one that switches the mapping attaches the Classic Controller. -/
theorem extension_hot_plug_attached :
    ∃ (s t u : World) (e : Exchange) (events : List Exchange), Run .gamepad anyInput s ∧
      (t.periphery.sessions 0).curExtension ≠ (s.periphery.sessions 0).curExtension ∧
      Announced e (s.periphery.sessions 0) (t.periphery.sessions 0) ∧
      2 ≤ ticks events ∧ (u.periphery.sessions 0).curExtension = .classic := by
  obtain ⟨s, reached, check⟩ : ∃ s, Run .gamepad anyInput s ∧
      decide ((s.core.links 0).isConnected = true ∧
        (s.periphery.sessions 0).aclState ≠ .linking ∧
        (exchange 0 .tick s).any (fun r =>
          (r.2.periphery.sessions 0).curExtension ≠ (s.periphery.sessions 0).curExtension) = true ∧
        (exchanges 0 (asksFor 0 .classic) [.tick, .tick] [] s).any (fun r =>
          2 ≤ ticks r.1) = true) = true :=
    exists_of_execute (hostOpens ++ [.timer [.input 1 switchPad]]) (by decide +kernel)
  obtain ⟨connected, acl, changes, enough⟩ := of_decide_eq_true check
  obtain ⟨⟨e, t⟩, stepped, changed⟩ := (Option.any_eq_true _ _).mp changes
  obtain ⟨⟨events, u⟩, run, twice⟩ := (Option.any_eq_true _ _).mp enough
  have changed := of_decide_eq_true changed
  have twice := of_decide_eq_true twice
  obtain ⟨announced, settled⟩ := extension_hot_plug 0 s connected
  exact ⟨s, t, u, e, events, reached, changed,
    (announced [] s .nil e t (exchange_step stepped) changed).1, twice,
    settled .classic events u acl (exchanges_trace .nil run) twice⟩

end Fakemote
