import Fakemote.Library.Trace
import Fakemote.DeedFrames

/-! One connection, turn by turn: its ticks, the host's commands and output reports, and requests
for another extension, with anything that leaves it alone in between. Injections succeed. -/

namespace Fakemote

open Bytes Program Labelled

inductive Turn
  | tick
  | command (code ident : UInt8) (payload : List UInt8) (size : UInt16)
  | data (dcid : UInt16) (payload : List UInt8) (length : UInt16)
  | setExtension (ext : WiimoteExt)
  | elsewhere
  deriving DecidableEq

def Turn.isTick : Turn → Bool
  | .tick => true
  | _ => false

def handleTurn (w : WiimoteId) : Turn → M Unit
  | .tick => tickActive w
  | .command code ident payload size => handleL2capSignalChannel w code ident payload size
  | .data dcid payload length => onDevice w fun dev => dev.handleChannelData dcid payload length
  | .setExtension ext => withPeriphery fun _ =>
      modifySession w fun wiimote => wiimote.fakeWiimoteSetExtension ext
  | .elsewhere => pure ()

/-- A turn, the packets that it put into the queue, and its calls into the controller library. -/
structure Exchange where
  turn : Turn
  sent : List Reply
  calls : List EgcCall

/-- The steps of a connection. Every allocation of a turn of its own gives a packet that is
queued. -/
inductive Exchanges (w : WiimoteId) (s : World) : Exchange → World → Prop
  | own {turn : Turn} {sent : List Reply} {calls : List EgcCall} {t : World} :
      turn ≠ .elsewhere → handleTurn w turn s = .ok ((), t) →
      (t.core.links w).isConnected = true →
      t.periphery.bulkIn.produced = s.periphery.bulkIn.produced ++ sent →
      t.periphery.heap.calls = s.periphery.heap.calls + sent.length →
      t.periphery.egcCalls = s.periphery.egcCalls ++ calls →
      Exchanges w s ⟨turn, sent, calls⟩ t
  | elsewhere {t : World} : (t.core.links w).isConnected = true →
      t.periphery.sessions w = s.periphery.sessions w →
      t.periphery.platform = s.periphery.platform → Exchanges w s ⟨.elsewhere, [], []⟩ t

theorem Exchanges.connected {w : WiimoteId} {s t : World} {e : Exchange}
    (step : Exchanges w s e t) : (t.core.links w).isConnected = true := by
  cases step with
  | own own run still sent placed calls => exact still
  | elsewhere still session platform => exact still

/-- The exchange of a turn; none when a packet of it is not queued or the connection ends. -/
def exchange (w : WiimoteId) (turn : Turn) (s : World) : Option (Exchange × World) :=
  match handleTurn w turn s with
  | .error _ => none
  | .ok (_, t) =>
      let sent := t.periphery.bulkIn.produced.drop s.periphery.bulkIn.produced.length
      let calls := t.periphery.egcCalls.drop s.periphery.egcCalls.length
      if turn ≠ .elsewhere ∧ (t.core.links w).isConnected = true ∧
          t.periphery.bulkIn.produced = s.periphery.bulkIn.produced ++ sent ∧
          t.periphery.heap.calls = s.periphery.heap.calls + sent.length ∧
          t.periphery.egcCalls = s.periphery.egcCalls ++ calls then
        some (⟨turn, sent, calls⟩, t)
      else none

theorem exchange_step {w : WiimoteId} {turn : Turn} {s t : World} {e : Exchange}
    (found : exchange w turn s = some (e, t)) : Exchanges w s e t := by
  unfold exchange at found
  split at found
  · cases found
  · rename_i run
    dsimp only at found
    split at found
    · rename_i conditions
      cases found
      obtain ⟨own, connected, sent, placed, calls⟩ := conditions
      exact .own own run connected sent placed calls
    · cases found

def exchanges (w : WiimoteId) (allowed : List Exchange → World → Exchange → Prop)
    [∀ events s e, Decidable (allowed events s e)] :
    List Turn → List Exchange → World → Option (List Exchange × World)
  | [], events, s => some (events, s)
  | turn :: turns, events, s =>
      match exchange w turn s with
      | none => none
      | some (e, t) =>
          if allowed events s e then exchanges w allowed turns (events ++ [e]) t else none

theorem exchanges_trace {w : WiimoteId} {allowed : List Exchange → World → Exchange → Prop}
    [∀ events s e, Decidable (allowed events s e)] {start s t : World} {turns : List Turn}
    {events after : List Exchange} (before : History.Trace (Exchanges w) allowed start events s)
    (run : exchanges w allowed turns events s = some (after, t)) :
    History.Trace (Exchanges w) allowed start after t := by
  induction turns generalizing events s with
  | nil =>
      cases run
      exact before
  | cons turn turns ih =>
      unfold exchanges at run
      split at run
      · cases run
      · rename_i e u found
        split at run
        · rename_i ok
          exact ih (before.snoc ok (exchange_step found)) run
        · cases run

def Deed.sends : Deed → Bool
  | finish | recordCid _ _ | complete _ | rumble _ | leds _ | mode _ _ | ir _ | startRead _
  | switch _ _ _ | feed _ _ _ _ _ _ => false
  | _ => true

theorem Deed.packet_length (egc : Platform) (handle : UInt16) (wiimote : Session) (deed : Deed) :
    (deed.packet egc handle wiimote).toList.length = deed.sends.toNat := by
  cases deed <;> rfl

theorem Deed.placed_sends {deed : Deed} (placed : deed.placed = true) : deed.sends = true := by
  cases deed <;> first | rfl | exact placed

/-- Fewer packets are queued than memory is asked for, unless each of them is. -/
theorem Air.path_placed {egc : Platform} {dev : Device} {a b : Air} {deeds : List Deed}
    (path : Path (Air.Enabled dev) (Air.act egc dev) a deeds b) :
    b.produced.length + a.allocations ≤ a.produced.length + b.allocations ∧
      (b.produced.length + a.allocations = a.produced.length + b.allocations →
        ∀ deed ∈ deeds, deed.sends = true → deed.placed = true) := by
  induction deeds generalizing a with
  | nil =>
      change b = a at path
      subst path
      refine ⟨Nat.le_refl _, ?_⟩
      intro _ deed member
      cases member
  | cons deed deeds ih =>
      obtain ⟨least, every⟩ := ih path.2
      have length :=
        Deed.packet_length egc dev.conHandle (a.sessions (deed.target dev.self)) deed
      have allocations : (a.act egc dev deed).allocations = a.allocations + deed.sends.toNat := by
        rw [← length]
        rfl
      have produced : (a.act egc dev deed).produced.length =
          a.produced.length + deed.placed.toNat := by
        simp only [Air.act, List.length_append]
        cases placed : deed.placed with
        | false => rfl
        | true =>
            rw [if_pos rfl, List.length_map, length, Deed.placed_sends placed]
      have bound : deed.placed.toNat ≤ deed.sends.toNat := by
        cases placed : deed.placed with
        | false => exact Nat.zero_le _
        | true =>
            exact Nat.le_of_eq (congrArg Bool.toNat (Deed.placed_sends placed).symm)
      refine ⟨by omega, ?_⟩
      intro balanced one member sends
      rcases List.mem_cons.mp member with rfl | later
      · cases placed : one.placed with
        | true => rfl
        | false =>
            rw [sends] at allocations
            rw [placed] at produced
            simp only [Bool.toNat_true, Bool.toNat_false] at allocations produced
            omega
      · exact every (by omega) one later sends

inductive TurnDeeds (wiimote : Session) : Turn → List Deed → Prop
  | linking {deeds : List Deed} : wiimote.aclState = .linking →
      Device.LinkingDeeds wiimote deeds → TurnDeeds wiimote .tick deeds
  | reports {deeds : List Deed} : wiimote.aclState ≠ .linking →
      Device.ReportDeeds wiimote deeds → TurnDeeds wiimote .tick deeds
  | command {code ident : UInt8} {payload : List UInt8} {size : UInt16} {command : Command}
      {deeds : List Deed} : commandOf code payload = .ok command →
      CommandDeeds wiimote ident payload size command deeds →
      TurnDeeds wiimote (.command code ident payload size) deeds
  | otherCommand {code ident : UInt8} {payload : List UInt8} {size : UInt16} :
      commandOf code payload = .ok .other → TurnDeeds wiimote (.command code ident payload size) []
  | noReport {dcid length : UInt16} {payload : List UInt8} :
      Device.reportFrom wiimote dcid payload length = none →
      TurnDeeds wiimote (.data dcid payload length) []
  | report {dcid length : UInt16} {payload data : List UInt8} {deeds : List Deed} :
      Device.reportFrom wiimote dcid payload length = some data →
      Device.ReportDeedsOf wiimote.readRequest.size data deeds →
      TurnDeeds wiimote (.data dcid payload length) deeds

/-- What a step of a connection is. -/
inductive Taken (w : WiimoteId) (s : World) : Exchange → World → Prop
  | elsewhere {t : World} : t.periphery.sessions w = s.periphery.sessions w →
      t.periphery.platform = s.periphery.platform → Taken w s ⟨.elsewhere, [], []⟩ t
  | setExtension {ext : WiimoteExt} {t : World} : t.core = s.core →
      t.periphery.sessions w = (s.periphery.sessions w).fakeWiimoteSetExtension ext →
      t.periphery.platform = s.periphery.platform →
      Taken w s ⟨.setExtension ext, [], []⟩ t
  | deeds {turn : Turn} {deeds : List Deed} {q : Periphery} :
      Device.Performs ⟨s.core, w⟩ s.periphery deeds q →
      TurnDeeds (s.periphery.sessions w) turn deeds →
      (∀ deed ∈ deeds, deed.sends = true → deed.placed = true) →
      Taken w s ⟨turn,
        emitted (Air.act s.periphery.platform ⟨s.core, w⟩)
          (Air.emits s.periphery.platform ⟨s.core, w⟩) s.periphery.air deeds,
        emitted (Air.act s.periphery.platform ⟨s.core, w⟩)
          (fun _ deed => deed.egcCalls ⟨s.core, w⟩) s.periphery.air deeds⟩
        { s with periphery := q }

theorem Exchanges.taken {w : WiimoteId} {s t : World} {e : Exchange} (step : Exchanges w s e t)
    (connected : (s.core.links w).isConnected = true) : Taken w s e t := by
  cases step with
  | elsewhere still session platform => exact .elsewhere session platform
  | @own turn sent calls t own run still grown placed called =>
      have deeds {deeds : List Deed} {q : Periphery} (after : t = { s with periphery := q })
          (performed : Device.Performs ⟨s.core, w⟩ s.periphery deeds q)
          (shape : TurnDeeds (s.periphery.sessions w) turn deeds) :
          Taken w s ⟨turn, sent, calls⟩ t := by
        subst after
        have sentIs := List.append_cancel_left (grown.symm.trans performed.produced)
        have callsAre := List.append_cancel_left (called.symm.trans performed.egcCalls)
        have every := (Air.path_placed performed.path).2 (by
          have grownBy := congrArg List.length grown
          rw [List.length_append] at grownBy
          dsimp only [Periphery.air] at grownBy placed ⊢
          omega)
        rw [sentIs, callsAre]
        exact .deeds performed shape every
      cases turn with
      | tick =>
          have link := connected
          rw [isConnected_iff] at link
          obtain ⟨deeds', q, after, performed, shape⟩ := tickActive_performs link.1 link.2 run
          apply deeds after performed
          split at shape
          · rename_i linking
            exact .linking linking shape
          · rename_i reports
            exact .reports reports shape
      | command code ident payload size =>
          obtain ⟨command, read, ⟨deeds', q, shape, performed, after⟩ |
            ⟨_, _, _, _, ret, -, -, closed⟩ | ⟨other, same⟩⟩ := handleL2capSignalChannel_ok run
          · exact deeds after performed (.command read shape)
          · obtain ⟨_, after⟩ := fakeWiimoteDisconnect_ledger closed
            have links := congrArg (fun a : Ledger => a.core.links w) after
            rw [isConnected_iff] at still
            simp only [disconnect_links, Function.update_self] at links
            have inactive := congrArg Link.active links
            cases inactive.symm.trans still.1
          · exact deeds same (.refl _) (.otherCommand (other ▸ read))
      | data dcid payload length =>
          change onDevice w (fun dev => dev.handleChannelData dcid payload length) s = _ at run
          obtain ⟨q, inner, after⟩ := onDevice_ok run
          have performed := Device.handleChannelData_performs inner
          split at performed
          · rename_i none
            exact deeds after (performed ▸ .refl _) (.noReport none)
          · rename_i data some
            obtain ⟨deeds', shape, performed⟩ := performed
            exact deeds after performed (.report some shape)
      | setExtension ext =>
          cases run
          rw [List.self_eq_append_right.mp grown, List.self_eq_append_right.mp called]
          exact .setExtension rfl (Function.update_self _ _ _) rfl
      | elsewhere => exact absurd rfl own

def Turn.reportId (wiimote : Session) : Turn → Option UInt8
  | .data dcid payload length => (Device.reportFrom wiimote dcid payload length).bind List.head?
  | _ => none

theorem Device.LinkingDeeds.links {wiimote : Session} {deeds : List Deed}
    (shape : Device.LinkingDeeds wiimote deeds) : ∀ deed ∈ deeds, deed.links = true := by
  intro deed member
  rcases shape.kinds deed member with ⟨chn, psm, localCid, rfl⟩ | ⟨chn, placed, rfl⟩ | rfl
  all_goals rfl

theorem CommandDeeds.links {wiimote : Session} {ident : UInt8} {payload : List UInt8}
    {size : UInt16} {command : Command} {deeds : List Deed}
    (shape : CommandDeeds wiimote ident payload size command deeds) :
    ∀ deed ∈ deeds, deed.links = true := by
  intro deed member
  cases shape <;> rw [List.mem_singleton.mp member] <;> rfl

inductive Device.Answers : UInt8 → Deed → Prop
  | ack {id rptId errorCode : UInt8} {placed : Bool} : Answers id (.ack rptId errorCode placed)
  | leds {value : UInt8} : Answers outputReportIdLed (.leds value)
  | mode {mode : UInt8} {continuous : Bool} :
      Answers outputReportIdReportMode (.mode mode continuous)
  | ir {on : Bool} : Answers outputReportIdIrEnable (.ir on)
  | status {padding : List UInt8} {placed : Bool} : padding.length = 2 →
      Answers outputReportIdStatus (.status padding placed)
  | write {data : Device.WriteRequest} {placed : Bool} :
      Answers outputReportIdWriteData (.write data placed)
  | startRead {request : ReadRequest} : Answers outputReportIdReadData (.startRead request)
  | chunk {placed : Bool} : Answers outputReportIdReadData (.chunk placed)

theorem Device.OutputDeeds.answers {pending : UInt16} {report : List UInt8} {id : UInt8}
    {deeds : List Deed} {deed : Deed} (shape : Device.OutputDeeds pending report id deeds)
    (member : deed ∈ deeds) : Device.Answers id deed := by
  have acked {rptId : UInt8} {acks : List Deed} (shape : Device.Acks rptId acks)
      (member : deed ∈ acks) : Device.Answers id deed := by
    rcases shape with rfl | ⟨placed, rfl⟩
    · cases member
    · rw [List.mem_singleton.mp member]
      exact .ack
  have first {head : Deed} {acks : List Deed} (answer : Device.Answers id head)
      (shape : Device.Acks id acks) (member : deed ∈ head :: acks) : Device.Answers id deed := by
    rcases List.mem_cons.mp member with rfl | later
    · exact answer
    · exact acked shape later
  have only {head : Deed} (answer : Device.Answers id head) (member : deed ∈ [head]) :
      Device.Answers id deed := by
    rw [List.mem_singleton.mp member]
    exact answer
  cases shape with
  | rumble => cases member
  | speakerData => cases member
  | leds acks => exact first .leds acks member
  | mode found acks => exact first .mode acks member
  | ir acks => exact first .ir acks member
  | ack listed acks => exact acked acks member
  | status length => exact only (.status length) member
  | noWrite => cases member
  | write => exact only .write member
  | busy pending => exact only .ack member
  | empty idle found none => exact only .startRead member
  | read idle found some =>
      rcases List.mem_cons.mp member with rfl | later
      · exact .startRead
      · exact only .chunk later

theorem TurnDeeds.origin {wiimote : Session} {turn : Turn} {deeds : List Deed} {deed : Deed}
    (shape : TurnDeeds wiimote turn deeds) (member : deed ∈ deeds) :
    deed.links = true ∨ (∃ on, deed = .rumble on) ∨
    (turn = .tick ∧ wiimote.aclState ≠ .linking ∧ Device.ReportDeeds wiimote deeds) ∨
    ∃ id, turn.reportId wiimote = some id ∧ Device.Answers id deed := by
  cases shape with
  | linking acl shape => exact Or.inl (shape.links deed member)
  | reports acl shape => exact Or.inr (Or.inr (Or.inl ⟨rfl, acl, shape⟩))
  | command read shape => exact Or.inl (shape.links deed member)
  | otherCommand read => cases member
  | noReport none => cases member
  | report found shape =>
      cases shape with
      | @mk id rumble rest idAt rumbles output =>
          rcases List.mem_append.mp member with first | later
          · rcases rumbles with rfl | ⟨on, rfl⟩
            · cases first
            · exact Or.inr (Or.inl ⟨on, List.mem_singleton.mp first⟩)
          · refine Or.inr (Or.inr (Or.inr ⟨id, ?_, output.answers later⟩))
            simp only [Turn.reportId, found, Option.bind_some, Device.load8_head idAt]

def Deed.ofReports : Deed → Bool
  | chunk _ | change _ _ | switch _ _ _ | feed _ _ _ _ _ _ | report _ => true
  | _ => false

theorem Device.ReportDeeds.ofReports {wiimote : Session} {deeds : List Deed}
    (shape : Device.ReportDeeds wiimote deeds) : ∀ deed ∈ deeds, deed.ofReports = true := by
  cases shape <;> simp [Deed.ofReports]

def Deed.askedBy : Deed → Option UInt8
  | leds _ => some outputReportIdLed
  | mode _ _ => some outputReportIdReportMode
  | ir _ => some outputReportIdIrEnable
  | status _ _ => some outputReportIdStatus
  | write _ _ => some outputReportIdWriteData
  | startRead _ => some outputReportIdReadData
  | _ => none

theorem Deed.askedBy_links {deed : Deed} (links : deed.links = true) : deed.askedBy = none := by
  cases deed <;> first | rfl | cases links

theorem Deed.askedBy_ofReports {deed : Deed} (reports : deed.ofReports = true) :
    deed.askedBy = none := by
  cases deed <;> first | rfl | cases reports

theorem TurnDeeds.askedBy {wiimote : Session} {turn : Turn} {deeds : List Deed} {deed : Deed}
    {asked : UInt8} (shape : TurnDeeds wiimote turn deeds) (member : deed ∈ deeds)
    (asks : deed.askedBy = some asked) : turn.reportId wiimote = some asked := by
  rcases shape.origin member with links | ⟨on, rfl⟩ | ⟨-, -, reports⟩ | ⟨id, brings, answer⟩
  · cases (Deed.askedBy_links links).symm.trans asks
  · cases asks
  · cases (Deed.askedBy_ofReports (reports.ofReports deed member)).symm.trans asks
  · cases answer <;> cases asks <;> exact brings

/-- Two bytes of a status report are not written. -/
def Deed.Padded : Deed → Prop
  | status padding _ | change padding _ => padding.length = 2
  | _ => True

theorem TurnDeeds.padded {wiimote : Session} {turn : Turn} {deeds : List Deed}
    (shape : TurnDeeds wiimote turn deeds) : ∀ deed ∈ deeds, deed.Padded := by
  intro deed member
  rcases shape.origin member with links | ⟨on, rfl⟩ | ⟨-, -, reports⟩ | ⟨id, -, answer⟩
  · cases deed <;> trivial
  · trivial
  · cases reports with
    | change idle different length =>
        rw [List.mem_singleton.mp member]
        exact length
    | report idle same =>
        rcases List.mem_cons.mp member with rfl | later
        · trivial
        · rw [List.mem_singleton.mp later]
          trivial
    | _ =>
        rw [List.mem_singleton.mp member]
        trivial
  · cases answer with
    | status length => exact length
    | _ => trivial

/-- The extension changes alone, and in ticks. -/
theorem TurnDeeds.change {wiimote : Session} {turn : Turn} {deeds : List Deed}
    {padding : List UInt8} {placed : Bool} (shape : TurnDeeds wiimote turn deeds)
    (member : .change padding placed ∈ deeds) :
    turn = .tick ∧ deeds = [.change padding placed] := by
  rcases shape.origin member with links | ⟨on, same⟩ | ⟨tick, -, reports⟩ | ⟨id, -, answer⟩
  · cases links
  · cases same
  · refine ⟨tick, ?_⟩
    cases reports <;> simp at member
    rw [member.1, member.2]
  · cases answer

end Fakemote
