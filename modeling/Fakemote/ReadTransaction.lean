import Fakemote.ReadReplies
import Fakemote.ChannelSetup
import Fakemote.TickRetry

/-! A read of the host over several ticks: it is accepted, answered in chunks, and not disturbed by
what the host sends in between, unless that writes to a memory. -/

namespace Fakemote

open Bytes Program Transition Labelled History

def Deed.still : Deed → Bool
  | startRead _ | chunk _ | write _ _ | change _ _ | feed _ _ _ _ _ _ | report _ => false
  | _ => true

theorem setChannel_still (wiimote : Session) (chn : Channel) (info : L2capChannelInfo) :
    SameMemory wiimote (wiimote.setChannel chn info) ∧
      (wiimote.setChannel chn info).readRequest = wiimote.readRequest := by
  refine ⟨⟨fun m => ?_, ?_⟩, ?_⟩
  · cases chn <;> cases m <;> rfl
  · cases chn <;> rfl
  · cases chn <;> rfl

theorem Deed.session_still {egc : Platform} {deed : Deed} (still : deed.still = true)
    (wiimote : Session) : SameMemory wiimote (deed.session egc wiimote) ∧
      (deed.session egc wiimote).readRequest = wiimote.readRequest := by
  have same {after : Session} (eeprom : after.eeprom = wiimote.eeprom)
      (regs : after.extensionRegs = wiimote.extensionRegs) (ir : after.irRegs = wiimote.irRegs)
      (request : after.readRequest = wiimote.readRequest) :
      SameMemory wiimote after ∧ after.readRequest = wiimote.readRequest := by
    refine ⟨⟨fun m => ?_, ?_⟩, request⟩
    · cases m with
      | eeprom => exact eeprom
      | extension => exact regs
      | camera => exact ir
    · unfold Session.target
      rw [request]
  cases deed with
  | request chn psm localCid => exact setChannel_still _ _ _
  | configure chn placed =>
      cases placed with
      | true => exact setChannel_still _ _ _
      | false => exact ⟨.refl _, rfl⟩
  | recordCid chn remoteCid => exact setChannel_still _ _ _
  | recordMtu chn mtu ident options placed => exact setChannel_still _ _ _
  | complete chn => exact setChannel_still _ _ _
  | close chn ident dcid scid placed => exact setChannel_still _ _ _
  | startRead started => cases still
  | chunk placed => cases still
  | write request placed => cases still
  | change padding placed => cases still
  | feed d v ext input accelerometer irDots => cases still
  | report placed => cases still
  | _ => exact same rfl rfl rfl rfl

theorem Deed.session_readRequest {egc : Platform} {deed : Deed}
    (starts : ∀ started, deed ≠ .startRead started) (replies : ∀ placed, deed ≠ .chunk placed)
    (wiimote : Session) : (deed.session egc wiimote).readRequest = wiimote.readRequest := by
  cases still : deed.still with
  | true => exact (Deed.session_still still wiimote).2
  | false =>
      cases deed with
      | startRead started => exact absurd rfl (starts started)
      | chunk placed => exact absurd rfl (replies placed)
      | write request placed =>
          obtain ⟨irRegs, extensionRegs, dirty, eeprom, same⟩ :=
            Device.writeMemory_session wiimote request
          have after := congrArg Session.readRequest same
          exact after
      | change padding placed => rfl
      | feed d v ext input accelerometer irDots =>
          exact (feed_records egc wiimote d v ext input accelerometer irDots).readRequest
      | report placed => exact (report_records egc wiimote placed).readRequest
      | _ => cases still

theorem Air.act_still {egc : Platform} {dev : Device} {a : Air} {deed : Deed} {w : WiimoteId}
    (still : deed.still = true) :
    SameMemory (a.sessions w) ((a.act egc dev deed).sessions w) ∧
      ((a.act egc dev deed).sessions w).readRequest = (a.sessions w).readRequest := by
  dsimp only [Air.act]
  by_cases target : w = deed.target dev.self
  · subst target
    rw [Function.update_self]
    exact Deed.session_still still _
  · rw [Function.update_of_ne target]
    exact ⟨.refl _, rfl⟩

theorem Air.act_readRequest {egc : Platform} {dev : Device} {a : Air} {deed : Deed}
    {w : WiimoteId} (starts : ∀ started, deed ≠ .startRead started)
    (replies : ∀ placed, deed ≠ .chunk placed) :
    ((a.act egc dev deed).sessions w).readRequest = (a.sessions w).readRequest := by
  dsimp only [Air.act]
  by_cases target : w = deed.target dev.self
  · subst target
    rw [Function.update_self]
    exact Deed.session_readRequest starts replies _
  · rw [Function.update_of_ne target]

theorem readReply_other {reply : Reply} {id : UInt8} {body : List UInt8}
    (carries : reply.report = some (id, body))
    (other : id ≠ inputReportIdReadDataReply ∨ body.length ≠ 21) : readReply reply = none := by
  unfold readReply
  rw [carries]
  split
  · rename_i same
    cases same
    rw [if_neg]
    intro both
    rcases other with different | short
    · exact different both.1
    · apply short
      simp only [List.length_cons, both.2]
  · rfl

theorem Deed.packet_readReply {egc : Platform} {handle : UInt16} {wiimote : Session} {deed : Deed}
    {data : List UInt8} {retval : Int} (sent : deed.packet egc handle wiimote = some data)
    (other : ∀ placed, deed ≠ .chunk placed) : readReply ⟨retval, data⟩ = none := by
  have signal {code ident : UInt8} {payload : List UInt8}
      (known : code ≠ ((hidTypeData <<< (4 : UInt8)) ||| hidParamInput)) :
      readReply ⟨retval, signalPacket handle code ident payload⟩ = none := by
    have none := signalPacket_report handle ident payload known
    unfold readReply Reply.report
    rw [none]
  have report {id : UInt8} {body : List UInt8} {sender : Session}
      (other : id ≠ inputReportIdReadDataReply ∨ body.length ≠ 21) :
      readReply ⟨retval, inputReportPacket handle sender id body⟩ = none :=
    readReply_other (inputReportPacket_report handle sender id body) other
  cases deed with
  | request chn psm localCid =>
      cases sent
      exact signal (by decide)
  | configure chn placed =>
      cases sent
      exact signal (by decide)
  | recordMtu chn mtu ident options placed =>
      cases sent
      exact signal (by decide)
  | close chn ident dcid scid placed =>
      cases sent
      exact signal (by decide)
  | chunk placed => exact absurd rfl (other placed)
  | write request placed =>
      cases sent
      exact report (Or.inl (by decide))
  | ack rptId errorCode placed =>
      cases sent
      exact report (Or.inl (by decide))
  | status padding placed =>
      cases sent
      exact report (Or.inl (by decide))
  | change padding placed =>
      cases sent
      exact report (Or.inl (by decide))
  | report placed =>
      cases sent
      apply report
      by_cases answers : wiimote.reportingMode = inputReportIdReadDataReply
      · right
        intro long
        apply reportBody_answers egc.memory wiimote
        rw [answers, long]
        decide
      · exact Or.inl answers
  | _ => cases sent

theorem Device.Performs.no_replies {dev : Device} {p q : Periphery} {deeds : List Deed}
    (performed : dev.Performs p deeds q) (other : ∀ deed ∈ deeds, ∀ placed, deed ≠ .chunk placed) :
    readRepliesOf (emitted (Air.act p.platform dev) (Air.emits p.platform dev) p.air deeds) =
      [] := by
  unfold readRepliesOf
  rw [List.filterMap_eq_nil_iff]
  apply performed.path.emitted_all (fun _ => True) (fun reply : Reply => readReply reply = none)
    trivial
  · intros
    trivial
  · intro a deed member _ _ reply sent
    unfold Air.emits at sent
    split at sent
    · obtain ⟨data, packet, rfl⟩ := List.mem_map.mp sent
      exact Deed.packet_readReply (Option.mem_toList.mp packet) (other deed member)
    · cases sent

theorem Deed.links_still {deed : Deed} (links : deed.links = true) : deed.still = true := by
  cases deed <;> first | rfl | cases links

theorem Device.Acks.is_ack {rptId : UInt8} {acks : List Deed} {deed : Deed}
    (shape : Device.Acks rptId acks) (member : deed ∈ acks) :
    ∃ placed, deed = .ack rptId errorCodeSuccess placed := by
  rcases shape with rfl | ⟨placed, rfl⟩
  · cases member
  · exact ⟨placed, List.mem_singleton.mp member⟩

theorem Device.OutputDeeds.reading {pending : UInt16} {report : List UInt8} {id : UInt8}
    {deeds : List Deed} (shape : Device.OutputDeeds pending report id deeds)
    (reading : pending ≠ 0) (unwritten : id ≠ outputReportIdWriteData) :
    ∀ deed ∈ deeds, deed.still = true := by
  intro deed member
  have acked {rptId : UInt8} {acks : List Deed} (shape : Device.Acks rptId acks)
      (member : deed ∈ acks) : deed.still = true := by
    obtain ⟨placed, rfl⟩ := shape.is_ack member
    rfl
  have first {head : Deed} {acks : List Deed} {rptId : UInt8} (still : head.still = true)
      (shape : Device.Acks rptId acks) (member : deed ∈ head :: acks) : deed.still = true := by
    rcases List.mem_cons.mp member with rfl | later
    · exact still
    · exact acked shape later
  cases shape with
  | rumble => cases member
  | speakerData => cases member
  | leds acks => exact first rfl acks member
  | mode found acks => exact first rfl acks member
  | ir acks => exact first rfl acks member
  | ack listed acks => exact acked acks member
  | status length =>
      rw [List.mem_singleton.mp member]
      rfl
  | noWrite => exact absurd rfl unwritten
  | write => exact absurd rfl unwritten
  | busy pending =>
      rw [List.mem_singleton.mp member]
      rfl
  | empty idle found none => exact absurd idle reading
  | read idle found nonzero => exact absurd idle reading

theorem Turn.reportId_data {wiimote : Session} {dcid length : UInt16} {payload data : List UInt8}
    {id : UInt8} (found : Device.reportFrom wiimote dcid payload length = some data)
    (idAt : load8 data 0 = .ok id) : (Turn.data dcid payload length).reportId wiimote = some id := by
  dsimp only [Turn.reportId]
  rw [found, Option.bind_some, Device.load8_head idAt]

theorem TurnDeeds.reading {wiimote : Session} {turn : Turn} {deeds : List Deed}
    (shape : TurnDeeds wiimote turn deeds) (pending : wiimote.readRequest.size ≠ 0)
    (unwritten : turn.reportId wiimote ≠ some outputReportIdWriteData) :
    (turn = .tick ∧ wiimote.aclState ≠ .linking ∧ ∃ placed, deeds = [.chunk placed]) ∨
    ((turn = .tick → wiimote.aclState = .linking) ∧ ∀ deed ∈ deeds, deed.still = true) := by
  cases shape with
  | linking acl shape =>
      refine Or.inr ⟨fun _ => acl, ?_⟩
      intro deed member
      exact Deed.links_still (shape.links deed member)
  | reports acl shape =>
      refine Or.inl ⟨rfl, acl, ?_⟩
      cases shape with
      | chunk pending => exact ⟨_, rfl⟩
      | change idle different length => exact absurd idle pending
      | switch idle same => exact absurd idle pending
      | feed idle same => exact absurd idle pending
      | report idle same => exact absurd idle pending
  | command read shape =>
      refine Or.inr ⟨fun tick => (by cases tick), ?_⟩
      intro deed member
      exact Deed.links_still (shape.links deed member)
  | otherCommand read => exact Or.inr ⟨fun tick => (by cases tick), fun _ none => (by cases none)⟩
  | noReport found => exact Or.inr ⟨fun tick => (by cases tick), fun _ none => (by cases none)⟩
  | report found shape =>
      refine Or.inr ⟨fun tick => (by cases tick), ?_⟩
      intro deed member
      cases shape with
      | mk idAt rumbles output =>
          rw [Turn.reportId_data found idAt] at unwritten
          rcases List.mem_append.mp member with first | later
          · rcases rumbles with rfl | ⟨on, rfl⟩
            · cases first
            · rw [List.mem_singleton.mp first]
              rfl
          · exact output.reading pending (fun same => unwritten (congrArg some same)) deed later

theorem TurnDeeds.idle {wiimote : Session} {turn : Turn} {deeds : List Deed}
    (shape : TurnDeeds wiimote turn deeds) (idle : wiimote.readRequest.size = 0)
    (unasked : turn.reportId wiimote ≠ some outputReportIdReadData) :
    ∀ deed ∈ deeds, (∀ started, deed ≠ .startRead started) ∧ ∀ placed, deed ≠ .chunk placed := by
  intro deed member
  refine ⟨?_, ?_⟩
  · rintro started rfl
    exact unasked (shape.askedBy member rfl)
  · rintro placed rfl
    rcases shape.origin member with links | ⟨on, same⟩ | ⟨-, -, reports⟩ | ⟨id, brings, answer⟩
    · cases links
    · cases same
    · cases reports with
      | chunk pending => exact pending idle
      | _ => simp at member
    · cases answer with
      | chunk => exact unasked brings

def keepsMemory (w : WiimoteId) (_ : List Exchange) (s : World) (e : Exchange) : Prop :=
  e.turn.reportId (s.periphery.sessions w) ≠ some outputReportIdWriteData ∧
    (e.turn.reportId (s.periphery.sessions w) = some outputReportIdReadData →
      (s.periphery.sessions w).readRequest.size ≠ 0)

theorem Device.Performs.keeps_memory {dev : Device} {p q : Periphery} {deeds : List Deed} {w : WiimoteId}
    (performed : dev.Performs p deeds q) (still : ∀ deed ∈ deeds, deed.still = true) :
    SameMemory (p.sessions w) (q.sessions w) ∧
      (q.sessions w).readRequest = (p.sessions w).readRequest := by
  apply performed.path.kept (fun a => SameMemory (p.sessions w) (a.sessions w) ∧
    (a.sessions w).readRequest = (p.sessions w).readRequest) ⟨.refl _, rfl⟩
  intro a deed member before _
  have act : SameMemory (a.sessions w) ((a.act p.platform dev deed).sessions w) ∧
      ((a.act p.platform dev deed).sessions w).readRequest = (a.sessions w).readRequest :=
    Air.act_still (still deed member)
  exact ⟨before.1.trans act.1, act.2.trans before.2⟩

theorem Device.Performs.readRequest {dev : Device} {p q : Periphery} {deeds : List Deed}
    {w : WiimoteId} (performed : dev.Performs p deeds q)
    (other : ∀ deed ∈ deeds, (∀ started, deed ≠ .startRead started) ∧
      ∀ placed, deed ≠ .chunk placed) :
    (q.sessions w).readRequest = (p.sessions w).readRequest := by
  apply performed.path.kept
    (fun a => (a.sessions w).readRequest = (p.sessions w).readRequest) rfl
  intro a deed member same _
  rw [Air.act_readRequest (other deed member).1 (other deed member).2, same]

theorem Taken.platform {w : WiimoteId} {s t : World} {e : Exchange} (taken : Taken w s e t) :
    t.periphery.platform = s.periphery.platform := by
  cases taken with
  | elsewhere session platform => exact platform
  | setExtension core session platform => exact platform
  | deeds performed shape placed => exact performed.platform

theorem Taken.coherent {w : WiimoteId} {s t : World} {e : Exchange} (taken : Taken w s e t)
    (coherent : (s.periphery.sessions w).Coherent s.periphery.platform.memory) :
    (t.periphery.sessions w).Coherent t.periphery.platform.memory := by
  cases taken with
  | elsewhere session platform => rwa [session, platform]
  | setExtension core session platform =>
      rw [session, platform]
      exact coherent.keep rfl rfl rfl
  | deeds performed shape placed => exact performed.coherent coherent

theorem Taken.idle {w : WiimoteId} {s t : World} {e : Exchange} {events : List Exchange}
    (taken : Taken w s e t)
    (keeps : keepsMemory w events s e) (idle : (s.periphery.sessions w).readRequest.size = 0) :
    (t.periphery.sessions w).readRequest.size = 0 ∧ readRepliesOf e.sent = [] := by
  cases taken with
  | elsewhere session platform =>
      rw [session]
      exact ⟨idle, rfl⟩
  | setExtension core session platform =>
      rw [session]
      exact ⟨idle, rfl⟩
  | @deeds turn deeds q performed shape placed =>
      have other := shape.idle idle (fun asked => keeps.2 asked idle)
      refine ⟨?_, performed.no_replies fun deed member => (other deed member).2⟩
      have same : (q.sessions w).readRequest = (s.periphery.sessions w).readRequest :=
        performed.readRequest other
      rw [← idle]
      exact congrArg ReadRequest.size same

/-- With a read in progress a tick sends the next reply, unless the channels are still being set
up; nothing else touches the read. -/
theorem Taken.reading {w : WiimoteId} {s t : World} {e : Exchange} {events : List Exchange}
    {m : Memory} (taken : Taken w s e t) (keeps : keepsMemory w events s e)
    (pending : (s.periphery.sessions w).readRequest.size ≠ 0)
    (coherent : (s.periphery.sessions w).Coherent s.periphery.platform.memory)
    (target : (s.periphery.sessions w).target = some m) :
    SameMemory (s.periphery.sessions w) (t.periphery.sessions w) ∧
    if e.turn.isTick = true ∧ (s.periphery.sessions w).aclState ≠ .linking then
      ∃ reply, readRepliesOf e.sent = [reply] ∧
        (s.periphery.sessions w).remaining s.periphery.platform.memory m =
          reply :: (t.periphery.sessions w).remaining s.periphery.platform.memory m
    else
      readRepliesOf e.sent = [] ∧
        (t.periphery.sessions w).readRequest = (s.periphery.sessions w).readRequest := by
  cases taken with
  | elsewhere session platform =>
      rw [session]
      exact ⟨.refl _, by rw [if_neg (fun both => by cases both.1)]; exact ⟨rfl, rfl⟩⟩
  | @setExtension ext t core session platform =>
      rw [session]
      have same : SameMemory (s.periphery.sessions w)
          ((s.periphery.sessions w).fakeWiimoteSetExtension ext) := ⟨fun m => by cases m <;> rfl, rfl⟩
      exact ⟨same, by rw [if_neg (fun both => by cases both.1)]; exact ⟨rfl, rfl⟩⟩
  | @deeds turn deeds q performed shape placed =>
      rcases shape.reading pending keeps.1 with ⟨rfl, acl, sent, rfl⟩ | ⟨links, still⟩
      · have session : q.sessions w = (s.periphery.sessions w).afterChunk s.periphery.platform.memory :=
          performed.one_session rfl
        obtain ⟨reply, remaining, same, reads⟩ := chunk_next coherent target pending
        have arrives : sent = true := placed _ (List.mem_singleton.mpr rfl) rfl
        dsimp only
        rw [session, if_pos ⟨rfl, acl⟩]
        refine ⟨same, reply, ?_, remaining⟩
        have packet := reads (inputReportPacket (s.core.links w).hciConHandle
          (s.periphery.sessions w) inputReportIdReadDataReply
          ((s.periphery.sessions w).chunkBody s.periphery.platform.memory)).length
          (s.core.links w).hciConHandle (s.periphery.sessions w)
        subst arrives
        exact List.filterMap_cons_some packet
      · obtain ⟨same, request⟩ := performed.keeps_memory (w := w) still
        refine ⟨same, ?_⟩
        rw [if_neg]
        · refine ⟨performed.no_replies ?_, request⟩
          rintro deed member placed rfl
          cases still _ member
        · rintro ⟨tick, acl⟩
          apply acl
          apply links
          cases turn <;> first | rfl | cases tick

def Exchange.resumes (e : Exchange) : Bool :=
  e.calls.any fun
    | .resume _ => true
    | _ => false

/-- The ticks that have the reports to send: those after the set-up, if it is going on. -/
def reportTicks : Bool → List Exchange → Nat
  | _, [] => 0
  | true, e :: events => reportTicks (!e.resumes) events
  | false, e :: events => e.turn.isTick.toNat + reportTicks false events

theorem reportTicks_concat (linking : Bool) (events : List Exchange) (e : Exchange) :
    reportTicks linking (events ++ [e]) = reportTicks linking events +
      if linking = true ∧ events.any Exchange.resumes = false then 0 else e.turn.isTick.toNat := by
  induction events generalizing linking with
  | nil =>
      cases linking with
      | true => rfl
      | false => exact Nat.add_comm _ _
  | cons first events ih =>
      rw [List.any_cons, List.cons_append]
      cases linking with
      | true =>
          unfold reportTicks
          rw [ih]
          cases first.resumes <;> simp
      | false =>
          unfold reportTicks
          rw [ih, Nat.add_assoc]
          simp

theorem Exchange.resumes_iff (e : Exchange) :
    e.resumes = true ↔ ∃ device, .resume device ∈ e.calls := by
  unfold Exchange.resumes
  rw [List.any_eq_true]
  constructor
  · rintro ⟨call, made, resumes⟩
    cases call with
    | resume device => exact ⟨device, made⟩
    | _ => cases resumes
  · rintro ⟨device, made⟩
    exact ⟨_, made, rfl⟩

theorem Taken.linking_iff {w : WiimoteId} {s t : World} {e : Exchange} (taken : Taken w s e t) :
    (t.periphery.sessions w).aclState = .linking ↔
      (s.periphery.sessions w).aclState = .linking ∧ e.resumes = false := by
  obtain ⟨-, resumes, rests⟩ := taken.leaves
  by_cases linking : (s.periphery.sessions w).aclState = .linking
  · by_cases leaves : (s.periphery.sessions w).Leaves (t.periphery.sessions w)
    · have called : e.resumes = true := by
        rw [e.resumes_iff, resumes leaves]
        exact ⟨_, List.mem_singleton.mpr rfl⟩
      rw [called]
      exact iff_of_false leaves.2 (fun both => by cases both.2)
    · have silent : e.resumes = false := by
        rw [← Bool.not_eq_true, e.resumes_iff]
        rintro ⟨device, made⟩
        exact rests leaves device made
      refine iff_of_true ?_ ⟨linking, silent⟩
      by_contra left
      exact leaves ⟨linking, left⟩
  · exact iff_of_false (taken.aclState linking) fun both => linking both.1

def Turn.readRequest (wiimote : Session) : Turn → Option ReadRequest
  | .data dcid payload length =>
      match Device.reportFrom wiimote dcid payload length with
      | some (id :: report) =>
          if id = outputReportIdReadData then (Device.readRequestOf report).toOption else none
      | _ => none
  | _ => none

theorem Turn.readRequest_some {wiimote : Session} {turn : Turn} {request : ReadRequest}
    (asks : turn.readRequest wiimote = some request) :
    ∃ dcid payload length report, turn = .data dcid payload length ∧
      Device.reportFrom wiimote dcid payload length = some (outputReportIdReadData :: report) ∧
      Device.readRequestOf report = .ok request := by
  cases turn with
  | data dcid payload length =>
      dsimp only [Turn.readRequest] at asks
      split at asks
      · rename_i id report found
        split at asks
        · rename_i reads
          subst reads
          refine ⟨dcid, payload, length, report, rfl, found, ?_⟩
          cases read : Device.readRequestOf report with
          | error fault =>
              rw [read] at asks
              cases asks
          | ok asked =>
              rw [read] at asks
              cases asks
              rfl
        · cases asks
      · cases asks
  | _ => cases asks

theorem Device.OutputDeeds.accepted {pending : UInt16} {report : List UInt8} {id : UInt8}
    {deeds : List Deed} {request : ReadRequest}
    (shape : Device.OutputDeeds pending report id deeds) (reads : id = outputReportIdReadData)
    (idle : pending = 0) (read : Device.readRequestOf report = .ok request)
    (nonzero : request.size ≠ 0) : ∃ placed, deeds = [.startRead request, .chunk placed] := by
  cases shape with
  | ack listed acks =>
      subst reads
      exact absurd listed (by decide)
  | busy pending => exact absurd idle pending
  | empty idle found none =>
      cases found.symm.trans read
      exact absurd none nonzero
  | read idle found some =>
      cases found.symm.trans read
      exact ⟨_, rfl⟩
  | _ => exact absurd reads (by decide)

/-- What accepting a read comes to, for the session before it. -/
structure StartsRead (memory : Nat → UInt8) (m : Memory) (request : ReadRequest) (before : Session)
    (sent : List Reply) (after : Session) : Prop where
  target : after.target = some m
  aclState : after.aclState = before.aclState
  memories : ∀ m, after.memory m = before.memory m
  replies : ∃ reply, readRepliesOf sent = [reply] ∧
    expectedReplies m (before.sentFrom memory m) request.address.toNat request.size.toNat =
      reply :: after.remaining memory m

theorem startsRead_of_path {egc : Platform} {dev : Device} {a b : Air} {request : ReadRequest}
    {m : Memory}
    (path : Path (Air.Enabled dev) (Air.act egc dev) a [.startRead request, .chunk true] b)
    (coherent : (a.sessions dev.self).Coherent egc.memory) (nonzero : request.size ≠ 0)
    (target : targetMemory request.space request.slaveAddress = some m) :
    StartsRead egc.memory m request (a.sessions dev.self)
      (emitted (Air.act egc dev) (Air.emits egc dev) a [.startRead request, .chunk true])
      (b.sessions dev.self) := by
  have started : (a.act egc dev (.startRead request)).sessions dev.self =
      { a.sessions dev.self with readRequest := request } := Function.update_self _ _ _
  have done : b = (a.act egc dev (.startRead request)).act egc dev (.chunk true) := path.2.2
  have session : b.sessions dev.self =
      { a.sessions dev.self with readRequest := request : Session }.afterChunk egc.memory := by
    rw [done, ← started]
    exact Function.update_self _ _ _
  have begun : { a.sessions dev.self with readRequest := request : Session }.Coherent egc.memory :=
    coherent.keep rfl rfl rfl
  obtain ⟨reply, remaining, same, reads⟩ := chunk_next begun target nonzero
  rw [session]
  refine ⟨same.target.trans target, ?_, same.memory, reply, ?_, ?_⟩
  · obtain ⟨key, dirty, request, after⟩ := afterChunk_session egc.memory
      { a.sessions dev.self with readRequest := request : Session }
    rw [after]
  · have sent : emitted (Air.act egc dev) (Air.emits egc dev) a [.startRead request, .chunk true] =
        [⟨_, inputReportPacket dev.conHandle
          ((a.act egc dev (.startRead request)).sessions dev.self) inputReportIdReadDataReply
          (((a.act egc dev (.startRead request)).sessions dev.self).chunkBody egc.memory)⟩] := rfl
    rw [sent, started]
    exact List.filterMap_cons_some (reads _ _ _)
  · rw [← remaining]
    exact (if_neg nonzero).symm

theorem Taken.startsRead {w : WiimoteId} {s t : World} {e : Exchange} {request : ReadRequest}
    {m : Memory} (taken : Taken w s e t)
    (asks : e.turn.readRequest (s.periphery.sessions w) = some request)
    (idle : (s.periphery.sessions w).readRequest.size = 0) (nonzero : request.size ≠ 0)
    (coherent : (s.periphery.sessions w).Coherent s.periphery.platform.memory)
    (target : targetMemory request.space request.slaveAddress = some m) :
    StartsRead s.periphery.platform.memory m request (s.periphery.sessions w) e.sent
      (t.periphery.sessions w) := by
  obtain ⟨dcid, payload, length, report, asked, found, read⟩ := Turn.readRequest_some asks
  cases taken with
  | elsewhere session platform => cases asked
  | setExtension core session platform => cases asked
  | @deeds turn deeds q performed shape placed =>
      dsimp only at asked
      subst asked
      cases shape with
      | noReport none => cases none.symm.trans found
      | report reported shape =>
          cases reported.symm.trans found
          cases shape with
          | @mk id rumble rest idAt rumbles output =>
              have reads : id = outputReportIdReadData := (Except.ok.inj idAt).symm
              obtain ⟨sent, rfl⟩ := output.accepted reads idle read nonzero
              have arrives : sent = true := by
                apply placed (.chunk sent) _ rfl
                simp
              subst arrives
              rcases rumbles with rfl | ⟨on, rfl⟩
              · exact startsRead_of_path performed.path coherent nonzero target
              · have rumbled : ((s.periphery.air.act s.periphery.platform ⟨s.core, w⟩
                    (.rumble on)).sessions w) = { s.periphery.sessions w with rumbleOn := on } :=
                  Function.update_self _ _ _
                have accepted := startsRead_of_path performed.path.2
                  (by rw [rumbled]; exact coherent.keep rfl rfl rfl) nonzero target
                rw [rumbled] at accepted
                exact ⟨accepted.target, accepted.aclState, accepted.memories, accepted.replies⟩

theorem Device.OutputDeeds.refused {pending : UInt16} {report : List UInt8} {id : UInt8}
    {deeds : List Deed} (shape : Device.OutputDeeds pending report id deeds)
    (reads : id = outputReportIdReadData) (reading : pending ≠ 0) :
    ∃ placed, deeds = [.ack outputReportIdReadData errorCodeBusy placed] := by
  cases shape with
  | ack listed acks =>
      subst reads
      exact absurd listed (by decide)
  | busy pending => exact ⟨_, rfl⟩
  | empty idle found none => exact absurd idle reading
  | read idle found some => exact absurd idle reading
  | _ => exact absurd reads (by decide)

def busyAck (buttons : UInt16) : UInt8 × List UInt8 :=
  (inputReportIdAck, bytes16 buttons ++ [outputReportIdReadData, errorCodeBusy])

theorem Taken.busy {w : WiimoteId} {s t : World} {e : Exchange} (taken : Taken w s e t)
    (asks : e.turn.reportId (s.periphery.sessions w) = some outputReportIdReadData)
    (pending : (s.periphery.sessions w).readRequest.size ≠ 0) :
    e.sent.map Reply.report = [some (busyAck (s.periphery.sessions w).buttons)] := by
  cases taken with
  | elsewhere session platform => cases asks
  | setExtension core session platform => cases asks
  | @deeds turn deeds q performed shape placed =>
      cases shape with
      | report found shape =>
          cases shape with
          | @mk id rumble rest idAt rumbles output =>
              rw [Turn.reportId_data found idAt] at asks
              obtain ⟨sent, rfl⟩ := output.refused (Option.some.inj asks) pending
              have arrives : sent = true :=
                placed _ (List.mem_append_right _ (List.mem_singleton.mpr rfl)) rfl
              subst arrives
              rcases rumbles with rfl | ⟨on, rfl⟩
              · rfl
              · have rumbled : ((s.periphery.air.act s.periphery.platform ⟨s.core, w⟩
                    (.rumble on)).sessions w) = { s.periphery.sessions w with rumbleOn := on } :=
                  Function.update_self _ _ _
                change [some (inputReportIdAck, bytes16 ((s.periphery.air.act s.periphery.platform
                  ⟨s.core, w⟩ (.rumble on)).sessions w).buttons ++ _)] = _
                rw [rumbled]
                rfl
      | noReport none =>
          dsimp only [Turn.reportId] at asks
          rw [none] at asks
          cases asks
      | _ => cases asks

theorem Turn.reportId_not_tick {wiimote : Session} {turn : Turn} {id : UInt8}
    (brings : turn.reportId wiimote = some id) : turn.isTick ≠ true := by
  intro tick
  cases turn with
  | tick => cases brings
  | _ => cases tick

/-- What the host got for its read after some replies were due. -/
structure ReadAnswered (w : WiimoteId) (m : Memory) (request : ReadRequest) (start : World)
    (replies : List ReadReply) (due : Nat) (s : World) : Prop where
  replies : replies = (expectedReplies m ((start.periphery.sessions w).sentFrom
    start.periphery.platform.memory m) request.address.toNat request.size.toNat).take due
  ended : (s.periphery.sessions w).readRequest.size = 0 ↔
    (expectedReplies m ((start.periphery.sessions w).sentFrom start.periphery.platform.memory m)
      request.address.toNat request.size.toNat).length ≤ due
  whole : request.address.toNat + request.size.toNat ≤ m.size →
    (expectedReplies m ((start.periphery.sessions w).sentFrom start.periphery.platform.memory m)
        request.address.toNat request.size.toNat).length = (request.size.toNat + 15) / 16 ∧
      (expectedReplies m ((start.periphery.sessions w).sentFrom start.periphery.platform.memory m)
          request.address.toNat request.size.toNat).flatMap
        ((start.periphery.sessions w).hostBytes start.periphery.platform.memory m) =
      ((start.periphery.sessions w).memory m).read request.address.toNat request.size.toNat
  busy : ∀ e t, Exchanges w s e t → (s.periphery.sessions w).readRequest.size ≠ 0 →
    e.turn.reportId (s.periphery.sessions w) = some outputReportIdReadData →
    e.sent.map Reply.report = [some (busyAck (s.periphery.sessions w).buttons)] ∧
      (t.periphery.sessions w).readRequest = (s.periphery.sessions w).readRequest

theorem expectedReplies_ne_nil (m : Memory) (sent : Nat → Nat → List UInt8) (address : Nat)
    {size : Nat} (some : size ≠ 0) : expectedReplies m sent address size ≠ [] := by
  by_cases fits : NextFits m address size
  · rw [expectedReplies_good some fits]
    exact List.cons_ne_nil _ _
  · rw [expectedReplies_refused fits]
    exact List.cons_ne_nil _ _

theorem Session.remaining_eq_nil_iff (memory : Nat → UInt8) (wiimote : Session) (m : Memory) :
    wiimote.remaining memory m = [] ↔ wiimote.readRequest.size = 0 := by
  unfold Session.remaining
  by_cases done : wiimote.readRequest.size = 0
  · rw [if_pos done]
    exact iff_of_true rfl done
  · rw [if_neg done]
    apply iff_of_false _ done
    apply expectedReplies_ne_nil
    exact fun none => done (UInt16.toNat_inj.mp none)

theorem take_drop_next {α : Type} {list rest : List α} {count : Nat} {next : α}
    (left : list.drop count = next :: rest) :
    list.take (count + 1) = list.take count ++ [next] ∧ list.drop (count + 1) = rest := by
  have here : list[count]? = some next := by
    rw [← List.head?_drop, left]
    rfl
  refine ⟨?_, ?_⟩
  · rw [List.take_add_one, here]
    rfl
  · rw [← List.tail_drop, left]
    rfl

/-- A read in progress: what was sent and what remains of the replies. -/
structure ReadGoesOn (w : WiimoteId) (m : Memory) (expected : List ReadReply) (linking : Bool)
    (first : List ReadReply) (events : List Exchange) (s : World) : Prop where
  connected : (s.core.links w).isConnected = true
  coherent : (s.periphery.sessions w).Coherent s.periphery.platform.memory
  acl : (s.periphery.sessions w).aclState = .linking ↔
    linking = true ∧ events.any Exchange.resumes = false
  sent : first ++ readRepliesIn events = expected.take (1 + reportTicks linking events)
  remains : (s.periphery.sessions w).remaining s.periphery.platform.memory m =
    expected.drop (1 + reportTicks linking events)
  target : (s.periphery.sessions w).readRequest.size ≠ 0 → (s.periphery.sessions w).target = some m

theorem ReadGoesOn.next {w : WiimoteId} {m : Memory} {expected first : List ReadReply}
    {linking : Bool} {events : List Exchange} {s t : World} {e : Exchange}
    (goes : ReadGoesOn w m expected linking first events s) (keeps : keepsMemory w events s e)
    (step : Exchanges w s e t) : ReadGoesOn w m expected linking first (events ++ [e]) t := by
  have taken := step.taken goes.connected
  have memory := taken.platform
  have acl : (t.periphery.sessions w).aclState = .linking ↔
      linking = true ∧ (events ++ [e]).any Exchange.resumes = false := by
    rw [taken.linking_iff, goes.acl, List.any_append, Bool.or_eq_false_iff, and_assoc]
    simp
  have replies : first ++ readRepliesIn (events ++ [e]) =
      expected.take (1 + reportTicks linking events) ++ readRepliesOf e.sent := by
    rw [← goes.sent, List.append_assoc]
    simp [readRepliesIn]
  by_cases idle : (s.periphery.sessions w).readRequest.size = 0
  · obtain ⟨still, none⟩ := taken.idle keeps idle
    have short : expected.length ≤ 1 + reportTicks linking events := by
      have nothing := goes.remains
      rw [(Session.remaining_eq_nil_iff _ _ _).mpr idle] at nothing
      exact List.drop_eq_nil_iff.mp nothing.symm
    have later : expected.length ≤ 1 + reportTicks linking (events ++ [e]) := by
      rw [reportTicks_concat]
      omega
    refine ⟨step.connected, taken.coherent goes.coherent, acl, ?_, ?_, fun pending =>
      absurd still pending⟩
    · rw [replies, none, List.append_nil, List.take_of_length_le short,
        List.take_of_length_le later]
    · rw [(Session.remaining_eq_nil_iff _ _ _).mpr still]
      exact (List.drop_eq_nil_iff.mpr later).symm
  · obtain ⟨same, reads⟩ := taken.reading keeps idle goes.coherent (goes.target idle)
    have target := same.target.trans (goes.target idle)
    by_cases replying : e.turn.isTick = true ∧ (s.periphery.sessions w).aclState ≠ .linking
    · rw [if_pos replying] at reads
      obtain ⟨reply, sent, remaining⟩ := reads
      have counted : 1 + reportTicks linking (events ++ [e]) =
          1 + reportTicks linking events + 1 := by
        rw [reportTicks_concat, replying.1, if_neg (fun both => replying.2 (goes.acl.mpr both))]
        rfl
      rw [goes.remains] at remaining
      obtain ⟨took, left⟩ := take_drop_next remaining
      refine ⟨step.connected, taken.coherent goes.coherent, acl, ?_, ?_, fun _ => target⟩
      · rw [counted, replies, sent, took]
      · rw [counted, left, memory]
    · rw [if_neg replying] at reads
      obtain ⟨sent, request⟩ := reads
      have counted : reportTicks linking (events ++ [e]) = reportTicks linking events := by
        rw [reportTicks_concat]
        split
        · rfl
        · rename_i done
          have still : e.turn.isTick = false :=
            Bool.eq_false_iff.mpr fun tick => replying ⟨tick, fun acl => done (goes.acl.mp acl)⟩
          rw [still]
          rfl
      refine ⟨step.connected, taken.coherent goes.coherent, acl, ?_, ?_, fun _ => target⟩
      · rw [replies, sent, List.append_nil, counted]
      · rw [counted, ← goes.remains, memory]
        unfold Session.remaining
        rw [request, same.sentFrom]

/-- A read that is accepted is answered in chunks, one in each tick that has the reports to send,
until all that it calls for is sent. -/
theorem read_transaction {env : Environment} {start s t : World} {w : WiimoteId} {e : Exchange}
    {request : ReadRequest} {m : Memory} {events : List Exchange}
    (reached : CallRun env anyCall start) (connected : (start.core.links w).isConnected = true)
    (idle : (start.periphery.sessions w).readRequest.size = 0)
    (asks : e.turn.readRequest (start.periphery.sessions w) = some request)
    (nonzero : request.size ≠ 0)
    (target : targetMemory request.space request.slaveAddress = some m)
    (accepted : Exchanges w start e s) (trace : Trace (Exchanges w) (keepsMemory w) s events t) :
    ReadAnswered w m request start (readRepliesOf e.sent ++ readRepliesIn events)
      (1 + reportTicks ((start.periphery.sessions w).aclState = .linking) events) t := by
  have active := (isConnected_iff.mp connected).1
  have coherent := (extension_key_coherent reached active).1
  have taken := accepted.taken connected
  have starts := taken.startsRead asks idle nonzero coherent target
  have goes := trace.invariant (ReadGoesOn w m (expectedReplies m
    ((start.periphery.sessions w).sentFrom start.periphery.platform.memory m)
    request.address.toNat request.size.toNat)
    ((start.periphery.sessions w).aclState = .linking) (readRepliesOf e.sent)) ?_ ?_
  · refine ⟨goes.sent, ?_, ?_, ?_⟩
    · rw [← Session.remaining_eq_nil_iff t.periphery.platform.memory _ m, goes.remains,
        List.drop_eq_nil_iff]
    · intro fits
      refine ⟨?_, Session.hostBytes_whole _ _ fits⟩
      rw [expectedReplies_whole fits, goodReplies, List.length_map, List.length_range]
    · intro e u step pending asks
      have taken := step.taken goes.connected
      have keeps : keepsMemory w events t e := by
        refine ⟨?_, fun _ => pending⟩
        rw [asks]
        decide
      obtain ⟨-, reads⟩ := taken.reading keeps pending goes.coherent (goes.target pending)
      rw [if_neg (fun both => Turn.reportId_not_tick asks both.1)] at reads
      exact ⟨taken.busy asks pending, reads.2⟩
  · obtain ⟨reply, sent, expected⟩ := starts.replies
    rw [expected, sent]
    refine ⟨accepted.connected, taken.coherent coherent, ?_, rfl, ?_, fun _ => starts.target⟩
    · rw [starts.aclState]
      simp
    · rw [taken.platform]
      rfl
  · intro events s e t goes keeps step
    exact goes.next keeps step

instance (w : WiimoteId) (events : List Exchange) (s : World) (e : Exchange) :
    Decidable (keepsMemory w events s e) :=
  inferInstanceAs (Decidable (_ ∧ (_ → _)))

def readsTwenty : Turn :=
  .data 0x41 [(hidTypeData <<< (4 : UInt8)) ||| hidParamOutput, outputReportIdReadData, 0x04, 0xA4,
    0x00, 0x00, 0x00, 20] 8

/-- Two replies, and the tick between them. -/
theorem read_transaction_encrypted :
    ∃ (start t : World) (replies : List ReadReply), Run .gamepad anyInput start ∧
      ReadAnswered 0 .extension ⟨addressSpaceI2cBus, extensionI2cAddr, 0, 20⟩ start replies 2 t ∧
      replies.length = 2 ∧ (t.periphery.sessions 0).readRequest.size = 0 := by
  obtain ⟨start, reached, check⟩ : ∃ s, Run .gamepad anyInput s ∧
      (decide ((s.core.links 0).isConnected = true ∧
        (s.periphery.sessions 0).readRequest.size = 0 ∧
        (s.periphery.sessions 0).aclState ≠ .linking ∧
        readsTwenty.readRequest (s.periphery.sessions 0) =
          some ⟨addressSpaceI2cBus, extensionI2cAddr, 0, 20⟩) &&
        (exchange 0 readsTwenty s).any fun first => first.1.turn = readsTwenty &&
          (exchanges 0 (keepsMemory 0) [.tick] [] first.2).any fun after =>
            decide ((readRepliesOf first.1.sent ++ readRepliesIn after.1).length = 2 ∧
              reportTicks false after.1 = 1 ∧
              (after.2.periphery.sessions 0).readRequest.size = 0)) = true :=
    exists_of_execute (hostOpens ++ readsEncrypted.take 1) (by decide +kernel)
  obtain ⟨first, rest⟩ := Bool.and_eq_true_iff.mp check
  obtain ⟨connected, idle, acl, asks⟩ := of_decide_eq_true first
  obtain ⟨⟨e, s⟩, accepted, rest⟩ := (Option.any_eq_true _ _).mp rest
  obtain ⟨turn, rest⟩ := Bool.and_eq_true_iff.mp rest
  obtain ⟨⟨events, t⟩, run, rest⟩ := (Option.any_eq_true _ _).mp rest
  obtain ⟨two, one, done⟩ := of_decide_eq_true rest
  have turn : e.turn = readsTwenty := of_decide_eq_true turn
  have answered := read_transaction reached.calls connected idle (turn ▸ asks) (by decide) rfl
    (exchange_step accepted) (exchanges_trace .nil run)
  rw [decide_eq_false acl, one] at answered
  exact ⟨start, t, _, reached, answered, two, done⟩

end Fakemote
