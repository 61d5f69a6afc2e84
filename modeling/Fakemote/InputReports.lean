import Fakemote.Library.DiffCopy
import Fakemote.ControllerPairing
import Fakemote.DataReports
import Fakemote.ExtensionAgreement
import Fakemote.TickRetry

/-! Changes of the input. A poll compares the inputs of the controller with those of the session,
copies what differs and sets the dirty flag; in a mode that is not continuous, reports are sent for
dirty input only. -/

namespace Fakemote

open Bytes BitFields DiffCopy Program Transition Labelled Pairing

/-- `sizeof(extension_data.nunchuk)`, which is that of the Classic Controller too. -/
def extensionDataSize : Nat := 6

structure MappedInput where
  buttons : UInt16
  data : List UInt8
  deriving DecidableEq, Repr

def formattedInput (egc : Platform) (input : Gamepad) : WiimoteExt → MappedInput
  | .nunchuk =>
      ⟨bmMapWiimote egc.buttonCount input.buttons egc.wiimoteButtonMap 0,
        bmMapNunchuk egc.buttonCount input.buttons egc.axisCount input.axes 0 0 0
          egc.nunchukButtonMap egc.nunchukAnalogAxisMap⟩
  | .classic =>
      ⟨0, bmMapClassic egc.buttonCount input.buttons egc.axisCount input.axes egc.classicButtonMap
        egc.classicAnalogAxisMap⟩
  | _ => ⟨0, []⟩

def pollOf (core : Core) (p : Periphery) (w : WiimoteId) : MappedInput :=
  match polledDevice core w with
  | some (d, device) => formattedInput p.platform (p.gamepads device.id) (p.mappings d).extension
  | none => ⟨0, []⟩

def Session.held (wiimote : Session) : MappedInput :=
  ⟨wiimote.buttons, wiimote.extensionRegs.read controllerDataOffset extensionDataSize⟩

structure Session.Polled (before : Session) (poll : MappedInput) (after : Session) : Prop where
  held : after.held = poll
  beyond : ∀ i, extensionDataSize ≤ i → after.extensionRegs i = before.extensionRegs i
  dirty : after.inputDirty = true ↔ before.inputDirty = true ∨ before.held ≠ poll
  mode : after.reportingMode = before.reportingMode
  continuous : after.reportingContinuous = before.reportingContinuous

theorem formattedInput_length {ext : WiimoteExt} (formats : ext = .nunchuk ∨ ext = .classic)
    (egc : Platform) (input : Gamepad) :
    (formattedInput egc input ext).data.length = extensionDataSize := by
  rcases formats with rfl | rfl
  · rfl
  · rfl

theorem reportMapped_formatted {ext : WiimoteExt} (formats : ext = .nunchuk ∨ ext = .classic)
    (egc : Platform) (input : Gamepad) (wiimote : Session) :
    reportMapped egc input ext wiimote =
      wiimote.fakeWiimoteReportInputExt egc (formattedInput egc input ext).buttons
        (formattedInput egc input ext).data := by
  rcases formats with rfl | rfl
  · rfl
  · rfl

/-- The partial copy leaves the whole of the new data, and the dirty flag tells of any change. -/
theorem reportInputExt_polled (wiimote : Session) (egc : Platform) {poll : MappedInput}
    (size : poll.data.length = extensionDataSize) :
    wiimote.Polled poll (wiimote.fakeWiimoteReportInputExt egc poll.buttons poll.data) := by
  let old := wiimote.extensionRegs.read controllerDataOffset poll.data.length
  have length : old.length = poll.data.length := Registers.read_length _ _ _
  have first : egc.memmismatch old poll.data = firstDifference old poll.data :=
    egc.memmismatch_first old poll.data length
  have least : firstDifference old poll.data ≤ poll.data.length := firstDifference_le length
  have copies := Registers.read_write_drop wiimote.extensionRegs controllerDataOffset poll.data least
  have whole : old.take (firstDifference old poll.data) ++
      poll.data.drop (firstDifference old poll.data) = poll.data := take_append_drop length
  have heldIs : wiimote.held = ⟨wiimote.buttons, old⟩ := by
    unfold Session.held
    rw [← size]
  have heldSame : wiimote.held = poll ↔ wiimote.buttons = poll.buttons ∧ old = poll.data := by
    rw [heldIs]
    constructor
    · intro same
      rw [← same]
      exact ⟨rfl, rfl⟩
    · rintro ⟨buttons, data⟩
      rw [buttons, data]
  have differs : firstDifference old poll.data ≠ poll.data.length ↔ old ≠ poll.data :=
    not_congr (firstDifference_eq_length length)
  by_cases changed : wiimote.buttons ≠ poll.buttons ∨
      firstDifference old poll.data ≠ poll.data.length
  · have run : wiimote.fakeWiimoteReportInputExt egc poll.buttons poll.data =
        { wiimote with
          buttons := poll.buttons
          inputDirty := true
          extensionRegs :=
            if firstDifference old poll.data ≠ poll.data.length then
              wiimote.extensionRegs.write (controllerDataOffset + firstDifference old poll.data)
                (poll.data.drop (firstDifference old poll.data))
            else wiimote.extensionRegs } := by
      rw [← first] at changed ⊢
      exact if_pos changed
    have other : wiimote.held ≠ poll := by
      intro same
      obtain ⟨buttons, data⟩ := heldSame.mp same
      rcases changed with h | h
      · exact h buttons
      · exact differs.mp h data
    rw [run]
    refine ⟨?_, ?_, iff_of_true rfl (Or.inr other), rfl, rfl⟩
    · unfold Session.held
      rw [← size]
      dsimp only
      split
      · rw [copies, whole]
      · rename_i same
        have data : old = poll.data := by
          by_contra h
          exact same (differs.mpr h)
        rw [show wiimote.extensionRegs.read controllerDataOffset poll.data.length = poll.data from data]
    · intro i beyond
      dsimp only
      split
      · apply if_neg
        rw [List.length_drop, controllerDataOffset]
        omega
      · rfl
  · have run : wiimote.fakeWiimoteReportInputExt egc poll.buttons poll.data = wiimote := by
      rw [← first] at changed
      exact if_neg changed
    have same : wiimote.held = poll := by
      rw [heldSame]
      constructor
      · by_contra h
        exact changed (Or.inl h)
      · by_contra h
        exact changed (Or.inr (differs.mpr h))
    rw [run]
    refine ⟨same, fun i _ => rfl, ?_, rfl, rfl⟩
    rw [or_iff_left (not_not.mpr same)]

theorem Session.Polled.congr {before other after : Session} {poll : MappedInput}
    (polled : other.Polled poll after) (held : other.held = before.held)
    (regs : other.extensionRegs = before.extensionRegs)
    (dirty : other.inputDirty = before.inputDirty)
    (mode : other.reportingMode = before.reportingMode)
    (continuous : other.reportingContinuous = before.reportingContinuous) :
    before.Polled poll after where
  held := polled.held
  beyond := regs ▸ polled.beyond
  dirty := by rw [polled.dirty, dirty, held]
  mode := polled.mode.trans mode
  continuous := polled.continuous.trans continuous

theorem feed_polled (egc : Platform) (wiimote : Session) (d : SlotId) (v : WiimoteId)
    {ext : WiimoteExt} (formats : ext = .nunchuk ∨ ext = .classic) (input : Gamepad)
    (accelerometer : Bool) (irDots : List IrDot) :
    wiimote.Polled (formattedInput egc input ext)
      (Deed.session egc wiimote (.feed d v ext input accelerometer irDots)) := by
  dsimp only [Deed.session]
  rw [reportMapped_formatted formats]
  have polled (other : Session) :=
    reportInputExt_polled other egc (formattedInput_length formats egc input)
  cases accelerometer with
  | true => exact (polled _).congr rfl rfl rfl rfl rfl
  | false => exact (polled _).congr rfl rfl rfl rfl rfl

theorem inputDeviceReportInput_polls {core : Core} {w : WiimoteId} {p q : Periphery}
    (run : inputDeviceReportInput core (core.links w).inputDevice p = .ok (true, q)) :
    ∃ d device v irDots, polledDevice core w = some (d, device) ∧
      (core.slots d).assignedWiimote = some v ∧
      Device.Performs ⟨core, w⟩ p [.feed d v (p.mappings d).extension (p.gamepads device.id)
        (decide (device.desc.numAccelerometers > 0)) irDots] q := by
  obtain ⟨d, _, first, run⟩ := bind_ok.mp run
  obtain ⟨points, rfl⟩ := deref_ok first
  obtain ⟨device, _, second, run⟩ := bind_ok.mp run
  obtain ⟨holds, rfl⟩ := deref_ok second
  have found : polledDevice core w = some (d, device) := by
    rw [polledDevice, points, Option.bind_some, holds]
    rfl
  obtain ⟨_, _, got, run⟩ := bind_ok.mp run
  cases got
  obtain ⟨_, p1, held, run⟩ := bind_ok.mp run
  obtain ⟨platform1, air1⟩ := modifyMapping_still held fun _ => rfl
  rcases ite_run run with ⟨-, run⟩ | ⟨-, run⟩
  · obtain ⟨_, _, -, run⟩ := bind_ok.mp run
    obtain ⟨_, _, -, run⟩ := bind_ok.mp run
    obtain ⟨_, _, -, run⟩ := bind_ok.mp run
    cases run
  · obtain ⟨_, p2, checked, run⟩ := bind_ok.mp run
    obtain ⟨platform2, air2⟩ := checkSwitchIrEmuMode_air checked
    obtain ⟨_, p3, reported, run⟩ := bind_ok.mp run
    cases run
    obtain ⟨v, irDots, assigned, performed⟩ :=
      @Device.reportInputs_performs ⟨core, w⟩ _ _ _ _ _ points holds reported
    have gamepads : p2.gamepads = p.gamepads :=
      (checkSwitchIrEmuMode_gamepads checked).trans (modifyMapping_gamepads held)
    have extension : (p2.mappings d).extension = (p.mappings d).extension :=
      congrArg (fun a : Air => a.extensions d) (air2.trans air1)
    rw [gamepads, extension] at performed
    exact ⟨d, device, v, irDots, found, assigned,
      performed.after (platform2.trans platform1) (air2.trans air1)⟩

theorem tickBranch_dataReport {core : Core} {p : Periphery} {w : WiimoteId}
    (polls : tickBranch core p w = .dataReport) :
    (core.links w).basebandState = .complete ∧ (p.sessions w).aclState ≠ .linking ∧
      (p.sessions w).readRequest.size = 0 ∧
      (p.sessions w).newExtension = (p.sessions w).curExtension ∧
      ∃ d device, polledDevice core w = some (d, device) ∧ comboPressed p d device = false := by
  unfold tickBranch at polls
  split at polls
  · cases polls
  · cases polls
  · rename_i complete
    split at polls
    · cases polls
    · rename_i established
      split at polls
      · cases polls
      · rename_i idle
        split at polls
        · cases polls
        · rename_i same
          split at polls
          · rename_i d device found
            split at polls
            · cases polls
            · rename_i released
              exact ⟨complete, established, not_not.mp idle, not_not.mp same, d, device, found,
                Bool.eq_false_iff.mpr released⟩
          · cases polls

theorem tickReports_polls {core : Core} {w : WiimoteId} {p q : Periphery} {u : Unit}
    (polls : tickBranch core p w = .dataReport)
    (run : Device.tickReports ⟨core, w⟩ p = .ok (u, q)) :
    ∃ d device v irDots p1, polledDevice core w = some (d, device) ∧
      (core.slots d).assignedWiimote = some v ∧
      Device.Performs ⟨core, w⟩ p [.feed d v (p.mappings d).extension (p.gamepads device.id)
        (decide (device.desc.numAccelerometers > 0)) irDots] p1 ∧
      Device.fakeWiimoteSendDataReport ⟨core, w⟩ p1 = .ok (u, q) := by
  obtain ⟨-, -, idle, same, d, device, found, released⟩ := tickBranch_dataReport polls
  obtain ⟨read, p1, first, run⟩ := bind_ok.mp run
  rcases Device.fakeWiimoteProcessReadRequest_performs first with ⟨rfl, -, rfl⟩ |
    ⟨-, placed, performed⟩
  · obtain ⟨changed, p2, second, run⟩ := bind_ok.mp run
    rcases Device.fakeWiimoteProcessExtensionChange_performs second with ⟨rfl, -, rfl⟩ |
      ⟨-, padding, placed, -, performed⟩
    · obtain ⟨report, p3, third, run⟩ := bind_ok.mp run
      obtain ⟨_, _, again, decided, -⟩ := inputDeviceReportInput_session third
      cases found.symm.trans again
      rw [released] at decided
      subst decided
      obtain ⟨d, device, v, irDots, found, assigned, performed⟩ :=
        inputDeviceReportInput_polls third
      exact ⟨d, device, v, irDots, p3, found, assigned, performed, run⟩
    · exact absurd same performed.path.1
  · exact absurd idle performed.path.1

theorem polledDevice_eq_some {core : Core} {w : WiimoteId} {d : SlotId} {device : EgcDevice}
    (found : polledDevice core w = some (d, device)) :
    (core.links w).inputDevice = some d ∧ (core.slots d).device = some device := by
  obtain ⟨slot, points, found⟩ := Option.bind_eq_some_iff.mp found
  obtain ⟨held, holds, same⟩ := Option.map_eq_some_iff.mp found
  cases same
  exact ⟨points, holds⟩

/-- Controllers and fake Wiimotes point to each other. -/
def Core.Agree (core : Core) : Prop := Mutual core.controllerOf core.wiimoteOf

theorem polledDevice_own {core : Core} {w : WiimoteId} {d : SlotId} {device : EgcDevice}
    (agree : core.Agree) (active : (core.links w).active = true)
    (found : polledDevice core w = some (d, device)) :
    (core.slots d).assignedWiimote = some w := by
  have controller : core.controllerOf w = some d :=
    controllerOf_eq_some.mpr ⟨active, (polledDevice_eq_some found).1⟩
  exact (wiimoteOf_eq_some.mp ((agree w d).mp controller)).2

def injectedReport (s t : World) : Option HostReport :=
  ((t.periphery.bulkIn.produced.drop s.periphery.bulkIn.produced.length).getLast?).bind fun reply =>
    reply.report.bind fun report => decodeReport (hostLayout report.1) report.2

def Queued (s t : World) : Prop :=
  t.periphery.bulkIn.produced.length + s.periphery.heap.calls =
    s.periphery.bulkIn.produced.length + t.periphery.heap.calls

/-- A mode with buttons and the extension data, and not a continuous one. -/
structure ReportsInput (wiimote : Session) : Prop where
  continuous : wiimote.reportingContinuous = false
  buttons : inputReportHasBtn wiimote.reportingMode = true
  extension : extensionDataSize ≤ inputReportExtSize wiimote.reportingMode

theorem ReportsInput.enabled {wiimote : Session} (mode : ReportsInput wiimote) :
    wiimote.reportingMode ≠ inputReportIdReportDisabled := by
  intro disabled
  have least := mode.extension
  rw [disabled] at least
  exact absurd least (by decide)

inductive PollTick (w : WiimoteId) (s t : World) : Prop
  | clean (fed : Session) :
      (s.periphery.sessions w).Polled (pollOf s.core s.periphery w) fed → fed.inputDirty = false →
      t.periphery.sessions w = fed → injectedReport s t = none → PollTick w s t
  | dirty (fed : Session) :
      (s.periphery.sessions w).Polled (pollOf s.core s.periphery w) fed → fed.inputDirty = true →
      fed.Coherent s.periphery.platform.memory →
      t.periphery.sessions w = Deed.session s.periphery.platform fed (.report true) →
      injectedReport s t = some (fed.hostReport s.periphery.platform.memory) → PollTick w s t

theorem tickReports_polled {s : World} {w : WiimoteId} {q : Periphery} {u : Unit}
    (agree : s.core.Agree) (active : (s.core.links w).active = true)
    (ports : PortsAgree s.core s.periphery.air)
    (coherent : (s.periphery.sessions w).Coherent s.periphery.platform.memory)
    (polls : tickBranch s.core s.periphery w = .dataReport)
    (mode : ReportsInput (s.periphery.sessions w))
    (run : Device.tickReports ⟨s.core, w⟩ s.periphery = .ok (u, q))
    (queued : Queued s { s with periphery := q }) : PollTick w s { s with periphery := q } := by
  obtain ⟨d, device, v, irDots, p, found, assigned, fed, sends⟩ := tickReports_polls polls run
  obtain ⟨-, holds⟩ := polledDevice_eq_some found
  cases (polledDevice_own agree active found).symm.trans assigned
  have formats := ports.mapped d (by rw [holds]; rfl)
  have session := fed.one_session rfl
  have poll : pollOf s.core s.periphery w = formattedInput s.periphery.platform
      (s.periphery.gamepads device.id) (s.periphery.mappings d).extension := by
    unfold pollOf
    rw [found]
  have polled : (s.periphery.sessions w).Polled (pollOf s.core s.periphery w) (p.sessions w) := by
    rw [session, poll]
    exact feed_polled _ _ _ _ formats _ _ _
  have air : p.air = _ := fed.path.2
  have produced : p.bulkIn.produced = s.periphery.bulkIn.produced := by
    rw [fed.produced]
    exact List.append_nil _
  have calls : p.heap.calls = s.periphery.heap.calls := congrArg Air.allocations air
  rcases Device.fakeWiimoteSendDataReport_performs sends with ⟨idle, rfl⟩ | ⟨placed, reported⟩
  · have clean : (p.sessions w).inputDirty = false := by
      by_contra dirty
      exact idle ⟨by rw [polled.mode]; exact mode.enabled, Or.inr (by simpa using dirty)⟩
    refine .clean _ polled clean rfl ?_
    simp [injectedReport, produced]
  · have due := reported.path.1.2
    have dirty : (p.sessions w).inputDirty = true := by
      rcases due with continuous | dirty
      · cases continuous.symm.trans (polled.continuous.trans mode.continuous)
      · exact dirty
    have grown := reported.produced
    have after : q.air = _ := reported.path.2
    have allocated : q.heap.calls = p.heap.calls + 1 := congrArg Air.allocations after
    have isPlaced : placed = true := by
      cases placed with
      | true => rfl
      | false =>
          have same : q.bulkIn.produced = p.bulkIn.produced := grown.trans (List.append_nil _)
          unfold Queued at queued
          dsimp only at queued
          rw [same, produced, allocated, calls] at queued
          omega
    subst isPlaced
    have keyed := fed.coherent coherent
    rw [fed.platform] at keyed
    refine .dirty _ polled dirty keyed ?_ ?_
    · rw [← fed.platform]
      exact reported.one_session rfl
    · let packet := inputReportPacket (Device.conHandle ⟨s.core, w⟩) (p.sessions w)
        (p.sessions w).reportingMode ((p.sessions w).reportBody p.platform.memory)
      have sent : q.bulkIn.produced = s.periphery.bulkIn.produced ++ [⟨packet.length, packet⟩] := by
        rw [grown, produced]
        rfl
      have read : Reply.report ⟨packet.length, packet⟩ = some ((p.sessions w).reportingMode,
          (p.sessions w).reportBody p.platform.memory) := inputReportPacket_report _ _ _ _
      simp only [injectedReport, sent, List.drop_left, List.getLast?_singleton, Option.bind_some,
        read]
      rw [decodeReport_hostReport, fed.platform]

def Session.controllerData (wiimote : Session) : List UInt8 :=
  wiimote.extensionRegs.read controllerDataOffset controllerDataBytes

def Session.pending (wiimote : Session) : UInt16 × Bool := (wiimote.buttons, wiimote.inputDirty)

def Deed.feeds : Deed → Bool
  | feed _ _ _ _ _ _ | report _ => true
  | _ => false

def Deed.writesRegs : Deed → Bool
  | write _ _ | change _ _ | feed _ _ _ _ _ _ => true
  | _ => false

theorem Deed.session_pending {egc : Platform} {deed : Deed} (other : deed.feeds = false)
    (wiimote : Session) : (deed.session egc wiimote).pending = wiimote.pending := by
  have channel (chn : Channel) (info : L2capChannelInfo) :
      (wiimote.setChannel chn info).pending = wiimote.pending := by
    cases chn <;> rfl
  cases deed with
  | request chn psm localCid => exact channel _ _
  | configure chn placed =>
      cases placed with
      | true => exact channel _ _
      | false => rfl
  | recordCid chn remoteCid => exact channel _ _
  | recordMtu chn mtu ident options placed => exact channel _ _
  | complete chn => exact channel _ _
  | close chn ident dcid scid placed => exact channel _ _
  | chunk placed =>
      obtain ⟨key, dirty, request, same⟩ := afterChunk_session egc.memory wiimote
      have after := congrArg Session.pending same
      exact after
  | write data placed =>
      obtain ⟨irRegs, extensionRegs, dirty, eeprom, same⟩ :=
        Device.writeMemory_session wiimote data
      have after := congrArg Session.pending same
      exact after
  | feed d v ext input accelerometer irDots => cases other
  | report placed => cases other
  | _ => rfl

theorem Deed.session_regs {egc : Platform} {deed : Deed} (other : deed.writesRegs = false)
    (wiimote : Session) : (deed.session egc wiimote).extensionRegs = wiimote.extensionRegs := by
  have channel (chn : Channel) (info : L2capChannelInfo) :
      (wiimote.setChannel chn info).extensionRegs = wiimote.extensionRegs := by
    cases chn <;> rfl
  cases deed with
  | request chn psm localCid => exact channel _ _
  | configure chn placed =>
      cases placed with
      | true => exact channel _ _
      | false => rfl
  | recordCid chn remoteCid => exact channel _ _
  | recordMtu chn mtu ident options placed => exact channel _ _
  | complete chn => exact channel _ _
  | close chn ident dcid scid placed => exact channel _ _
  | chunk placed =>
      obtain ⟨key, dirty, request, same⟩ := afterChunk_session egc.memory wiimote
      have after := congrArg Session.extensionRegs same
      exact after
  | write data placed => cases other
  | change padding placed => cases other
  | feed d v ext input accelerometer irDots => cases other
  | report placed =>
      obtain ⟨key, dirty, same⟩ := report_session egc wiimote placed
      have after := congrArg Session.extensionRegs same
      exact after
  | _ => rfl

theorem Device.Performs.part {α : Type} {dev : Device} {p q : Periphery} {deeds : List Deed}
    {w : WiimoteId} (performed : dev.Performs p deeds q) (part : Session → α)
    (kept : ∀ deed ∈ deeds, (∃ a, Air.Enabled dev a deed) → deed.target dev.self = w →
      ∀ wiimote, part (deed.session p.platform wiimote) = part wiimote) :
    part (q.sessions w) = part (p.sessions w) := by
  apply performed.path.kept (fun a => part (a.sessions w) = part (p.sessions w)) rfl
  intro a deed member before enabled
  rw [← before]
  dsimp only [Air.act]
  by_cases target : w = deed.target dev.self
  · subst target
    rw [Function.update_self]
    exact kept deed member ⟨a, enabled⟩ rfl _
  · rw [Function.update_of_ne target]

theorem Device.Performs.elsewhere {dev : Device} {p q : Periphery} {deeds : List Deed}
    {w : WiimoteId} (performed : dev.Performs p deeds q)
    (away : ∀ deed ∈ deeds, (∃ a, Air.Enabled dev a deed) → deed.target dev.self ≠ w) :
    q.sessions w = p.sessions w :=
  performed.part id fun deed member enabled own => absurd own (away deed member enabled)

theorem Deed.links_quiet {deed : Deed} (linking : deed.links = true) :
    deed.feeds = false ∧ deed.writesRegs = false := by
  cases deed <;> first | exact ⟨rfl, rfl⟩ | cases linking

theorem Device.OutputDeeds.quiet {pending : UInt16} {report : List UInt8} {id : UInt8}
    {deeds : List Deed} (shape : Device.OutputDeeds pending report id deeds) :
    ∀ deed ∈ deeds, deed.feeds = false := by
  have acked {rptId : UInt8} {acks : List Deed} (shape : Device.Acks rptId acks) :
      ∀ deed ∈ acks, deed.feeds = false := by
    rcases shape with rfl | ⟨placed, rfl⟩ <;> simp [Deed.feeds]
  cases shape with
  | leds acks => simpa [Deed.feeds] using acked acks
  | mode found acks => simpa [Deed.feeds] using acked acks
  | ir acks => simpa [Deed.feeds] using acked acks
  | ack listed acks => exact acked acks
  | _ => simp [Deed.feeds]

theorem Device.ReportDeedsOf.quiet {pending : UInt16} {data : List UInt8} {deeds : List Deed}
    (shape : Device.ReportDeedsOf pending data deeds) : ∀ deed ∈ deeds, deed.feeds = false := by
  cases shape with
  | @mk id rumble rest found first second =>
      intro deed member
      rcases List.mem_append.mp member with h | h
      · rcases first with rfl | ⟨on, rfl⟩
        · cases h
        · rw [List.mem_singleton.mp h]
          rfl
      · exact second.quiet deed h

/-- The deeds of a tick concern the fake Wiimote that does them when controllers and fake Wiimotes
point to each other. -/
theorem Air.Enabled.own {core : Core} {v : WiimoteId} {a : Air} {deed : Deed}
    (enabled : Air.Enabled ⟨core, v⟩ a deed) (agree : core.Agree)
    (active : (core.links v).active = true) : deed.target v = v := by
  have own {d : SlotId} {u : WiimoteId} (drives : Device.Drives ⟨core, v⟩ d u) : u = v := by
    obtain ⟨points, -, assigned⟩ := drives
    have controller : core.controllerOf v = some d := controllerOf_eq_some.mpr ⟨active, points⟩
    have named := (wiimoteOf_eq_some.mp ((agree v d).mp controller)).2
    exact Option.some.inj (assigned.symm.trans named)
  cases deed with
  | switch d u ext => exact own enabled.1
  | feed d u ext input accelerometer irDots => exact own enabled.1
  | _ => rfl

structure InputKept (w : WiimoteId) (s t : World) : Prop where
  pending : (t.periphery.sessions w).pending = (s.periphery.sessions w).pending
  data : (t.periphery.sessions w).controllerData = (s.periphery.sessions w).controllerData

def Call.isTick (w : WiimoteId) : Call → Bool
  | .tick v => v = w
  | _ => false

def Call.isData (w : WiimoteId) : Call → Bool
  | .channelData v _ _ _ => v = w
  | _ => false

theorem Session.controllerData_congr {wiimote after : Session}
    (same : after.extensionRegs = wiimote.extensionRegs) :
    after.controllerData = wiimote.controllerData := by
  unfold Session.controllerData
  rw [same]

namespace InputKept

variable {w : WiimoteId} {s t : World}

theorem of_session (same : t.periphery.sessions w = s.periphery.sessions w) : InputKept w s t :=
  ⟨congrArg Session.pending same, congrArg Session.controllerData same⟩

theorem of_aloof (aloof : Aloof s t) : InputKept w s t := of_session (congrFun aloof.sessions w)

theorem of_deeds {dev : Device} {q : Periphery} {deeds : List Deed}
    (performed : dev.Performs s.periphery deeds q)
    (quiet : ∀ deed ∈ deeds, deed.feeds = false ∧ deed.writesRegs = false) :
    InputKept w s { s with periphery := q } where
  pending := performed.part Session.pending fun deed member _ _ =>
    Deed.session_pending (quiet deed member).1
  data := Session.controllerData_congr (performed.part Session.extensionRegs
    fun deed member _ _ => Deed.session_regs (quiet deed member).2)

theorem of_call {c : Call} (agree : s.core.Agree)
    (connected : (s.core.links w).isConnected = true) (made : Made s c)
    (run : callStep s c = .ok t) (other : c.isTick w = false)
    (written : c.isData w = true →
      (t.periphery.sessions w).controllerData = (s.periphery.sessions w).controllerData) :
    InputKept w s t := by
  cases callStep_effect run with
  | aloof aloof => exact of_aloof aloof
  | plug free => exact of_session rfl
  | @assign v d inactive found =>
      refine of_session (s.assigned_session_other d ?_)
      rintro rfl
      cases inactive.symm.trans (isConnected_iff.mp connected).1
  | @accept data v s1 t before after =>
      have kept : InputKept w s1 (s1.accepted v) := by
        by_cases same : w = v
        · subst same
          refine ⟨?_, ?_⟩
          · rw [s1.accepted_session_same]
            rfl
          · rw [s1.accepted_session_same]
            rfl
        · exact of_session (s1.accepted_session_other same)
      refine ⟨?_, ?_⟩
      · rw [after.sessions, kept.pending, before.sessions]
      · rw [after.sessions, kept.data, before.sessions]
  | @tick v deeds q active complete performed shape =>
      have away : v ≠ w := by simpa [Call.isTick] using other
      apply of_session
      apply performed.elsewhere
      rintro deed - ⟨a, enabled⟩
      rw [enabled.own agree active]
      exact away
  | command read shape performed =>
      exact of_deeds performed fun deed member => Deed.links_quiet (shape.links deed member)
  | @output v dcid length payload deeds q shape performed =>
      by_cases own : v = w
      · subst own
        refine ⟨?_, written (by simp [Call.isData])⟩
        apply performed.part Session.pending
        intro deed member _ _
        apply Deed.session_pending
        rcases shape with rfl | shape
        · cases member
        · exact shape.quiet deed member
      · apply of_session
        apply performed.elsewhere
        rintro deed - ⟨a, enabled⟩
        rw [enabled.own agree (isConnected_iff.mp made).1]
        exact own

end InputKept

theorem tickReports_unpolled {core : Core} {w : WiimoteId} {p q : Periphery} {u : Unit}
    (complete : (core.links w).basebandState = .complete)
    (established : (p.sessions w).aclState ≠ .linking)
    (unpolled : tickBranch core p w ≠ .dataReport)
    (run : Device.tickReports ⟨core, w⟩ p = .ok (u, q)) :
    ∃ deed, Device.Performs ⟨core, w⟩ p [deed] q ∧
      ((∃ placed, deed = .chunk placed) ∨ (∃ padding placed, deed = .change padding placed) ∨
        ∃ d v ext, deed = .switch d v ext) := by
  obtain ⟨read, p1, first, run⟩ := bind_ok.mp run
  rcases Device.fakeWiimoteProcessReadRequest_performs first with ⟨rfl, idle, rfl⟩ |
    ⟨rfl, placed, performed⟩
  · obtain ⟨changed, p2, second, run⟩ := bind_ok.mp run
    rcases Device.fakeWiimoteProcessExtensionChange_performs second with ⟨rfl, same, rfl⟩ |
      ⟨rfl, padding, placed, -, performed⟩
    · obtain ⟨report, p3, third, run⟩ := bind_ok.mp run
      obtain ⟨d, device, found, decided, -⟩ := inputDeviceReportInput_session third
      rcases @Device.inputDeviceReportInput_performs ⟨core, w⟩ _ _ _ third with
        ⟨rfl, d, v, ext, performed⟩ | ⟨rfl, -⟩
      · cases run
        exact ⟨_, performed, Or.inr (Or.inr ⟨d, v, ext, rfl⟩)⟩
      · have released : comboPressed p d device = false := by
          rw [← Bool.not_eq_true']
          exact decided.symm
        apply absurd _ unpolled
        unfold tickBranch
        rw [complete, found]
        dsimp only
        rw [if_neg established, if_neg (not_not.mpr idle), if_neg (not_not.mpr same), released]
        rfl
    · cases run
      exact ⟨_, performed, Or.inr (Or.inl ⟨padding, placed, rfl⟩)⟩
  · cases run
    exact ⟨_, performed, Or.inl ⟨placed, rfl⟩⟩

theorem InputKept.of_tick {w : WiimoteId} {s t : World} {u : Unit}
    (connected : (s.core.links w).isConnected = true)
    (unpolled : tickBranch s.core s.periphery w ≠ .dataReport)
    (extension : (t.periphery.sessions w).curExtension = (s.periphery.sessions w).curExtension)
    (run : tickActive w s = .ok (u, t)) : InputKept w s t := by
  have link := isConnected_iff.mp connected
  obtain ⟨_, _, got, run⟩ := bind_ok.mp run
  cases got
  rcases ite_run run with ⟨-, run⟩ | ⟨inactive, -⟩
  · obtain ⟨_, _, got, run⟩ := bind_ok.mp run
    cases got
    rw [link.2] at run
    obtain ⟨q, inner, rfl⟩ := onDevice_ok run
    obtain ⟨_, _, got, inner⟩ := bind_ok.mp inner
    cases got
    rcases ite_run inner with ⟨linking, inner⟩ | ⟨established, inner⟩
    · obtain ⟨deeds, shape, performed⟩ := Device.tickLinking_performs inner
      exact of_deeds performed fun deed member => Deed.links_quiet (shape.links deed member)
    · obtain ⟨deed, performed, ⟨placed, rfl⟩ | ⟨padding, placed, rfl⟩ | ⟨d, v, ext, rfl⟩⟩ :=
        tickReports_unpolled link.2 established unpolled inner
      · apply of_deeds performed
        intro deed member
        rw [List.mem_singleton.mp member]
        exact ⟨rfl, rfl⟩
      · have session := performed.one_session rfl
        dsimp only at extension
        rw [session] at extension
        exact absurd extension (afterChange_extension performed.path.1)
      · apply of_deeds performed
        intro deed member
        rw [List.mem_singleton.mp member]
        exact ⟨rfl, rfl⟩
  · exact absurd link.1 inactive

def accelerometerMask (mode : UInt8) : UInt16 := if inputReportAccSize mode ≠ 0 then 0x6060 else 0

def Session.extensionField (memory : Nat → UInt8) (wiimote : Session) : List UInt8 :=
  let size := inputReportExtSize wiimote.reportingMode
  if wiimote.extensionRegs encryptionOffset = encryptionEnabled then
    encryptedRegs memory wiimote.extensionRegs 0 size
  else wiimote.extensionRegs.read controllerDataOffset size

structure CarriesInput (memory : Nat → UInt8) (wiimote : Session) (report : HostReport) : Prop where
  buttons : report.word &&& ~~~accelerometerMask wiimote.reportingMode =
    wiimote.buttonWord &&& ~~~accelerometerMask wiimote.reportingMode
  extension : report.extension = wiimote.extensionField memory

structure Settings where
  reportingMode : UInt8
  reportingContinuous : Bool
  curExtension : WiimoteExt
  newExtension : WiimoteExt
  encryption : UInt8
  keyData : List UInt8
  deriving DecidableEq

def Session.settings (wiimote : Session) : Settings where
  reportingMode := wiimote.reportingMode
  reportingContinuous := wiimote.reportingContinuous
  curExtension := wiimote.curExtension
  newExtension := wiimote.newExtension
  encryption := wiimote.extensionRegs encryptionOffset
  keyData := Session.keyData wiimote.extensionRegs

theorem accelerometerBits_masked (wiimote : Session) :
    Device.accelerometerBits wiimote &&& ~~~(0x6060 : UInt16) = 0 := by
  have within : Within 0x6060 (Device.accelerometerBits wiimote) :=
    ((Within.shifted (by decide) wiimote.accX).or (Within.shifted (by decide) wiimote.accY)).or
      (Within.shifted (by decide) wiimote.accZ)
  exact within.and_of_apart (by decide)

theorem buttonWord_masked (wiimote : Session) :
    wiimote.buttonWord &&& ~~~accelerometerMask wiimote.reportingMode =
      wiimote.buttons &&& ~~~accelerometerMask wiimote.reportingMode := by
  unfold Session.buttonWord accelerometerMask
  split
  · rw [and_or_distrib, accelerometerBits_masked, UInt16.or_zero]
  · rw [UInt16.or_zero]

theorem read_controllerData (wiimote : Session) {count : Nat} (few : count ≤ controllerDataBytes) :
    wiimote.extensionRegs.read controllerDataOffset count = wiimote.controllerData.take count :=
  (Registers.read_take _ _ few).symm

theorem controllerData_apply {wiimote after : Session}
    (data : after.controllerData = wiimote.controllerData) {i : Nat}
    (inside : i < controllerDataBytes) :
    after.extensionRegs i = wiimote.extensionRegs i := by
  have same := congrArg (fun bytes => bytes[i]?) data
  simpa [Session.controllerData, Registers.read, inside, controllerDataOffset] using same

theorem extensionField_congr {memory : Nat → UInt8} {wiimote after : Session}
    (settings : after.settings = wiimote.settings)
    (data : after.controllerData = wiimote.controllerData) :
    after.extensionField memory = wiimote.extensionField memory := by
  have mode : after.reportingMode = wiimote.reportingMode :=
    congrArg Settings.reportingMode settings
  have encryption : after.extensionRegs encryptionOffset = wiimote.extensionRegs encryptionOffset :=
    congrArg Settings.encryption settings
  have key : derivedKey memory after.extensionRegs = derivedKey memory wiimote.extensionRegs :=
    derivedKey_congr (congrArg Settings.keyData settings)
  have few := (Device.inputReport_layout wiimote.reportingMode).2.2.2
  unfold Session.extensionField
  dsimp only
  rw [mode, encryption, read_controllerData after few, read_controllerData wiimote few, data]
  split
  · unfold encryptedRegs
    rw [key]
    apply List.map_congr_left
    intro offset member
    have inside : 0 + offset < controllerDataBytes := by
      have bound := List.mem_range.mp member
      rw [controllerDataBytes]
      omega
    rw [controllerData_apply data inside]
  · rfl

theorem CarriesInput.keep {memory : Nat → UInt8} {wiimote after : Session} {report : HostReport}
    (carries : CarriesInput memory wiimote report) (settings : after.settings = wiimote.settings)
    (buttons : after.buttons = wiimote.buttons)
    (data : after.controllerData = wiimote.controllerData) : CarriesInput memory after report := by
  have mode : after.reportingMode = wiimote.reportingMode :=
    congrArg Settings.reportingMode settings
  refine ⟨?_, carries.extension.trans (extensionField_congr settings data).symm⟩
  rw [buttonWord_masked, buttons, mode, carries.buttons, buttonWord_masked]

theorem hostReport_carriesInput {memory : Nat → UInt8} {wiimote : Session}
    (coherent : wiimote.Coherent memory) (mode : ReportsInput wiimote) :
    CarriesInput memory wiimote (wiimote.hostReport memory) := by
  refine ⟨?_, extensionReport_data coherent⟩
  rw [hostReport_word mode.buttons]

/-- A step of a run in which the fake Wiimote stays connected, the host changes neither its settings
nor the registers that reports carry, and the packets of its ticks reach the queue. -/
structure Undisturbed (w : WiimoteId) (s : World) (c : Call) (t : World) : Prop where
  connected : (s.core.links w).isConnected = true
  settings : (t.periphery.sessions w).settings = (s.periphery.sessions w).settings
  written : c.isData w = true →
    (t.periphery.sessions w).controllerData = (s.periphery.sessions w).controllerData
  queued : c.isTick w = true → Queued s t

def Undisturbing (w : WiimoteId) (s : World) (c : Call) : Prop :=
  Made s c ∧ ∀ t, callStep s c = .ok t → Undisturbed w s c t

/-- The last poll, and the last data report that reached the queue. -/
structure Feed where
  poll : MappedInput
  report : HostReport
  deriving DecidableEq

def Feed.record (w : WiimoteId) (feed : Feed) (s : World) (c : Call) (t : World) : Feed :=
  if c.isTick w = true ∧ tickBranch s.core s.periphery w = .dataReport then
    ⟨pollOf s.core s.periphery w, (injectedReport s t).getD feed.report⟩
  else feed

/-- The session holds the input of the last poll, and the host has been told. -/
structure Told (w : WiimoteId) (s : World) (feed : Feed) : Prop where
  mode : ReportsInput (s.periphery.sessions w)
  held : (s.periphery.sessions w).held = feed.poll
  clean : (s.periphery.sessions w).inputDirty = false
  carries : CarriesInput s.periphery.platform.memory (s.periphery.sessions w) feed.report

structure Follows (w : WiimoteId) (s t : World) (last : MappedInput) : Prop where
  held : (t.periphery.sessions w).held = pollOf s.core s.periphery w
  beyond : ∀ i, extensionDataSize ≤ i →
    (t.periphery.sessions w).extensionRegs i = (s.periphery.sessions w).extensionRegs i
  injects : (injectedReport s t).isSome = true ↔ pollOf s.core s.periphery w ≠ last

theorem ReportsInput.congr {wiimote after : Session} (mode : ReportsInput wiimote)
    (settings : after.settings = wiimote.settings) : ReportsInput after where
  continuous := (congrArg Settings.reportingContinuous settings).trans mode.continuous
  buttons := by
    rw [show after.reportingMode = wiimote.reportingMode from
      congrArg Settings.reportingMode settings]
    exact mode.buttons
  extension := by
    rw [show after.reportingMode = wiimote.reportingMode from
      congrArg Settings.reportingMode settings]
    exact mode.extension

theorem Told.kept {w : WiimoteId} {s t : World} {feed : Feed} (told : Told w s feed)
    (kept : InputKept w s t) (platform : t.periphery.platform = s.periphery.platform)
    (settings : (t.periphery.sessions w).settings = (s.periphery.sessions w).settings) :
    Told w t feed := by
  have buttons : (t.periphery.sessions w).buttons = (s.periphery.sessions w).buttons :=
    congrArg Prod.fst kept.pending
  have dirty : (t.periphery.sessions w).inputDirty = (s.periphery.sessions w).inputDirty :=
    congrArg Prod.snd kept.pending
  have few : extensionDataSize ≤ controllerDataBytes := by decide
  refine ⟨told.mode.congr settings, ?_, dirty.trans told.clean, ?_⟩
  · rw [← told.held]
    unfold Session.held
    rw [buttons, read_controllerData _ few, kept.data, ← read_controllerData _ few]
  · rw [platform]
    exact told.carries.keep settings buttons kept.data

theorem Session.Polled.unchanged {before after : Session} {poll : MappedInput}
    (polled : before.Polled poll after) (same : before.held = poll) :
    after.buttons = before.buttons ∧ after.extensionRegs = before.extensionRegs := by
  have held : after.held = before.held := polled.held.trans same.symm
  refine ⟨congrArg MappedInput.buttons held, ?_⟩
  funext i
  by_cases inside : i < extensionDataSize
  · have bytes := congrArg (fun poll : MappedInput => poll.data[i]?) held
    simpa [Session.held, Registers.read, inside, controllerDataOffset] using bytes
  · exact polled.beyond i (Nat.le_of_not_lt inside)

theorem told_report {w : WiimoteId} {t : World} {fed : Session} {placed : Bool}
    (mode : ReportsInput fed) (coherent : fed.Coherent t.periphery.platform.memory)
    (session : t.periphery.sessions w = Deed.session t.periphery.platform fed (.report placed)) :
    Told w t ⟨fed.held, fed.hostReport t.periphery.platform.memory⟩ := by
  obtain ⟨key, dirty, same⟩ := report_session t.periphery.platform fed placed
  have after := session.trans same
  have settings : (t.periphery.sessions w).settings = fed.settings := by
    rw [after]
    rfl
  refine ⟨mode.congr settings, by rw [after]; rfl, by rw [after], ?_⟩
  apply (hostReport_carriesInput coherent mode).keep settings
  · rw [after]
  · rw [after]
    rfl

theorem Session.Polled.reportsInput {before after : Session} {poll : MappedInput}
    (polled : before.Polled poll after) (mode : ReportsInput before) : ReportsInput after where
  continuous := polled.continuous.trans mode.continuous
  buttons := by
    rw [polled.mode]
    exact mode.buttons
  extension := by
    rw [polled.mode]
    exact mode.extension

theorem Told.polled {w : WiimoteId} {s t : World} {feed : Feed} (told : Told w s feed)
    (tick : PollTick w s t) (platform : t.periphery.platform = s.periphery.platform)
    (settings : (t.periphery.sessions w).settings = (s.periphery.sessions w).settings) :
    Told w t ⟨pollOf s.core s.periphery w, (injectedReport s t).getD feed.report⟩ ∧
      Follows w s t feed.poll := by
  cases tick with
  | clean fed polled clean session none =>
      have same : (s.periphery.sessions w).held = pollOf s.core s.periphery w := by
        by_contra other
        cases clean.symm.trans (polled.dirty.mpr (Or.inr other))
      obtain ⟨buttons, regs⟩ := polled.unchanged same
      have kept : InputKept w s t := by
        refine ⟨?_, ?_⟩
        · unfold Session.pending
          rw [session, buttons, clean, told.clean]
        · apply Session.controllerData_congr
          rw [session, regs]
      have poll : pollOf s.core s.periphery w = feed.poll := same.symm.trans told.held
      rw [none, poll]
      refine ⟨told.kept kept platform settings, ?_, ?_, ?_⟩
      · rw [session, polled.held]
      · rw [session]
        exact polled.beyond
      · rw [none, poll]
        exact iff_of_false (by simp) (not_not.mpr rfl)
  | dirty fed polled dirty coherent session sent =>
      have other : pollOf s.core s.periphery w ≠ feed.poll := by
        rcases polled.dirty.mp dirty with before | other
        · cases told.clean.symm.trans before
        · rw [← told.held]
          exact Ne.symm other
      obtain ⟨key, keyDirty, same⟩ := report_session s.periphery.platform fed true
      rw [← platform] at coherent session sent
      have reported := told_report (polled.reportsInput told.mode) coherent session
      rw [polled.held] at reported
      rw [sent]
      refine ⟨reported, ?_, ?_, ?_⟩
      · exact reported.held
      · intro i beyond
        rw [session, platform, same]
        exact polled.beyond i beyond
      · rw [sent]
        exact iff_of_true rfl other

theorem tick_polls {env : Environment} {condition : World → Call → Prop} {w : WiimoteId}
    {s t : World} (reached : CallRun env condition s) (agree : s.core.Agree)
    (run : callStep s (.tick w) = .ok t) (undisturbed : Undisturbed w s (.tick w) t)
    (mode : ReportsInput (s.periphery.sessions w))
    (polls : tickBranch s.core s.periphery w = .dataReport) : PollTick w s t := by
  have link := isConnected_iff.mp undisturbed.connected
  have queued := undisturbed.queued (by simp [Call.isTick])
  obtain ⟨-, established, -⟩ := tickBranch_dataReport polls
  obtain ⟨_, _, got, run⟩ := bind_ok.mp (callStep_ok.mp run)
  cases got
  rcases ite_run run with ⟨-, run⟩ | ⟨inactive, -⟩
  · obtain ⟨_, _, got, run⟩ := bind_ok.mp run
    cases got
    rw [link.2] at run
    obtain ⟨q, inner, rfl⟩ := onDevice_ok run
    obtain ⟨_, _, got, inner⟩ := bind_ok.mp inner
    cases got
    rcases ite_run inner with ⟨linking, -⟩ | ⟨-, inner⟩
    · exact absurd linking established
    · exact tickReports_polled agree link.1 reached.ports (reached.coherent w link.1)
        polls mode inner queued
  · exact absurd link.1 inactive

/-- The tick that starts a run: it polls, and its data report reaches the queue. -/
structure Reports (w : WiimoteId) (r s : World) (feed : Feed) : Prop where
  run : callStep r (.tick w) = .ok s
  undisturbed : Undisturbed w r (.tick w) s
  polls : tickBranch r.core r.periphery w = .dataReport
  mode : ReportsInput (r.periphery.sessions w)
  poll : pollOf r.core r.periphery w = feed.poll
  report : injectedReport r s = some feed.report

theorem Reports.told {env : Environment} {condition : World → Call → Prop} {w : WiimoteId}
    {r s : World} {feed : Feed} (reports : Reports w r s feed) (reached : CallRun env condition r)
    (agree : r.core.Agree) : Told w s feed := by
  have platform := (callStep_effect reports.run).platform
  have sent := reports.report
  cases tick_polls reached agree reports.run reports.undisturbed reports.mode reports.polls with
  | clean fed polled clean session none => cases sent.symm.trans none
  | dirty fed polled dirty coherent session reported =>
      rw [← platform] at coherent session reported
      have told := told_report (polled.reportsInput reports.mode) coherent session
      rw [polled.held, reports.poll, ← Option.some.inj (sent.symm.trans reported)] at told
      exact told

theorem Told.step {env : Environment} {condition : World → Call → Prop} {w : WiimoteId}
    {s t : World} {c : Call} {feed : Feed} (told : Told w s feed) (reached : CallRun env condition s)
    (agree : s.core.Agree) (made : Made s c) (run : callStep s c = .ok t)
    (undisturbed : Undisturbed w s c t) :
    Told w t (feed.record w s c t) := by
  have platform := (callStep_effect run).platform
  cases ticks : c.isTick w with
  | false =>
      have kept := InputKept.of_call agree undisturbed.connected made run ticks
        undisturbed.written
      rw [Feed.record, if_neg (by simp [ticks])]
      exact told.kept kept platform undisturbed.settings
  | true =>
      have own : c = .tick w := by
        cases c with
        | tick v => rw [of_decide_eq_true ticks]
        | _ => cases ticks
      subst own
      by_cases polls : tickBranch s.core s.periphery w = .dataReport
      · rw [Feed.record, if_pos ⟨ticks, polls⟩]
        exact (told.polled (tick_polls reached agree run undisturbed told.mode polls) platform
          undisturbed.settings).1
      · rw [Feed.record, if_neg fun both => polls both.2]
        apply told.kept _ platform undisturbed.settings
        exact InputKept.of_tick undisturbed.connected polls
          (congrArg Settings.curExtension undisturbed.settings) (callStep_ok.mp run)

/-- The host learns of every change of the input. In a run that starts with a data report, the
session holds the input of the last poll, the last report carries it but for the bits of the
accelerometer, and a tick that polls reports exactly the input that differs from the poll before. -/
theorem no_input_change_lost {env : Environment} {w : WiimoteId} {r s t : World}
    {first last : Feed} (reached : CallRun env anyCall r) (paired : r.core.Agree)
    (reports : Reports w r s first)
    (run : Reachable (observed callStep (Feed.record w))
      (fun state c => state.1.core.Agree ∧ Undisturbing w state.1 c) (s, first) (t, last)) :
    Told w t last ∧ ∀ u, callStep t (.tick w) = .ok u → t.core.Agree →
      Undisturbed w t (.tick w) u → tickBranch t.core t.periphery w = .dataReport →
      Follows w t u last.poll := by
  have made : Made r (.tick w) := trivial
  have started : CallRun env anyCall s := .next reached ⟨made, trivial⟩ reports.run
  have holds : CallRun env anyCall t ∧ Told w t last := by
    apply run.invariant (fun state => CallRun env anyCall state.1 ∧ Told w state.1 state.2)
      ⟨started, reports.told reached paired⟩
    rintro ⟨before, feed⟩ after c ⟨calls, told⟩ ⟨agree, made, undisturbed⟩ observing
    obtain ⟨u, stepped, rfl⟩ := observed_ok.mp observing
    exact ⟨.next calls ⟨made, trivial⟩ stepped,
      told.step calls agree made stepped (undisturbed u stepped)⟩
  refine ⟨holds.2, ?_⟩
  intro u ticked agree undisturbed polls
  exact (holds.2.polled (tick_polls holds.1 agree ticked undisturbed holds.2.mode polls)
    (callStep_effect ticked).platform undisturbed.settings).2

instance decidableAnyCall (s : World) (c : Call) : Decidable (anyCall s c) :=
  inferInstanceAs (Decidable True)

instance decidableAgree (core : Core) : Decidable core.Agree :=
  inferInstanceAs (Decidable (∀ (_ : WiimoteId) (_ : SlotId), _ ↔ _))

instance decidableUndisturbed (w : WiimoteId) (s : World) (c : Call) (t : World) :
    Decidable (Undisturbed w s c t) :=
  decidable_of_iff ((s.core.links w).isConnected = true ∧
      (t.periphery.sessions w).settings = (s.periphery.sessions w).settings ∧
      (c.isData w = true → (t.periphery.sessions w).controllerData =
        (s.periphery.sessions w).controllerData) ∧
      (c.isTick w = true → t.periphery.bulkIn.produced.length + s.periphery.heap.calls =
        s.periphery.bulkIn.produced.length + t.periphery.heap.calls))
    ⟨fun h => ⟨h.1, h.2.1, h.2.2.1, h.2.2.2⟩,
      fun h => ⟨h.connected, h.settings, h.written, h.queued⟩⟩

instance decidableUndisturbing (w : WiimoteId) (s : World) (c : Call) :
    Decidable (Undisturbing w s c) :=
  inferInstanceAs (Decidable (Made s c ∧ ∀ t, callStep s c = .ok t → Undisturbed w s c t))

instance decidableReportsInput (wiimote : Session) : Decidable (ReportsInput wiimote) :=
  decidable_of_iff (wiimote.reportingContinuous = false ∧
      inputReportHasBtn wiimote.reportingMode = true ∧
      extensionDataSize ≤ inputReportExtSize wiimote.reportingMode)
    ⟨fun h => ⟨h.1, h.2.1, h.2.2⟩, fun h => ⟨h.continuous, h.buttons, h.extension⟩⟩

def untilTick (events : List EgcEvent) : List Call :=
  events.map .egcEvent ++ [.tickSlots, .assign 0, .assign 1]

def afterTick : List Call := [.tick 1, .completedPackets]

def runUntilTick (inputs : List Input) : Option World :=
  (execute step (fun s input => decide (Possible s input ∧ anyInput s input))
    (World.init .gamepad) inputs).bind fun s =>
      execute callStep (fun s c => decide (Made s c ∧ anyCall s c)) s (untilTick [])

theorem runUntilTick_reached {inputs : List Input} {r : World}
    (run : runUntilTick inputs = some r) : CallRun .gamepad anyCall r := by
  obtain ⟨s, executed, called⟩ := Option.bind_eq_some_iff.mp run
  have reached : Run .gamepad anyInput s :=
    reachable_execute (fun _ _ ok => of_decide_eq_true ok) .start executed
  exact reachable_execute (fun _ _ ok => of_decide_eq_true ok) reached.calls called

/-- A run after a tick of `r` that sends a data report. -/
structure ReportRun (w : WiimoteId) (allowed : World → Call → Prop) (r s : World) (first : Feed)
    (t : World) (last : Feed) : Prop where
  reached : CallRun .gamepad anyCall r
  reports : Reports w r s first
  run : Reachable (observed callStep (Feed.record w)) (fun state c => allowed state.1 c) (s, first)
    (t, last)

def replay (w : WiimoteId) (allowed : World → Call → Prop) [∀ s c, Decidable (allowed s c)]
    (calls : List Call) (r : World) : Option (World × Feed) :=
  match callStep r (.tick w) with
  | .error _ => none
  | .ok s =>
      match injectedReport r s with
      | none => none
      | some report =>
          if Undisturbed w r (.tick w) s ∧ tickBranch r.core r.periphery w = .dataReport ∧
              ReportsInput (r.periphery.sessions w) then
            execute (observed callStep (Feed.record w))
              (fun state c => decide (allowed state.1 c))
              (s, ⟨pollOf r.core r.periphery w, report⟩) calls
          else none

theorem replay_run {w : WiimoteId} {allowed : World → Call → Prop}
    [∀ s c, Decidable (allowed s c)] {calls : List Call} {r : World} {last : World × Feed}
    (reached : CallRun .gamepad anyCall r) (replayed : replay w allowed calls r = some last) :
    ∃ s first, ReportRun w allowed r s first last.1 last.2 := by
  unfold replay at replayed
  split at replayed
  · cases replayed
  · rename_i s run
    split at replayed
    · cases replayed
    · rename_i report injected
      split at replayed
      · rename_i conditions
        obtain ⟨undisturbed, polls, mode⟩ := conditions
        have reports : Reports w r s ⟨pollOf r.core r.periphery w, report⟩ :=
          ⟨run, undisturbed, polls, mode, rfl, injected⟩
        exact ⟨s, _, reached, reports,
          reachable_execute (fun _ _ ok => of_decide_eq_true ok) .start replayed⟩
      · cases replayed

theorem exists_of_replay {w : WiimoteId} {allowed : World → Call → Prop}
    [∀ s c, Decidable (allowed s c)] (inputs : List Input) (calls : List Call)
    {before : World → Bool} {after : World × Feed → Bool}
    (executed : (runUntilTick inputs).any (fun r =>
      before r && (replay w allowed calls r).any after) = true) :
    ∃ r s first last, ReportRun w allowed r s first last.1 last.2 ∧ before r = true ∧
      after last = true := by
  obtain ⟨r, run, checked⟩ := (Option.any_eq_true _ _).mp executed
  obtain ⟨starts, checked⟩ := Bool.and_eq_true_iff.mp checked
  obtain ⟨last, replayed, ends⟩ := (Option.any_eq_true _ _).mp checked
  obtain ⟨s, first, replays⟩ := replay_run (runUntilTick_reached run) replayed
  exact ⟨r, s, first, last, replays, starts, ends⟩

def pressed (buttons : UInt32) (x : UInt16) : Gamepad := ⟨buttons, fun _ => 0, 0, 0, x, 0, 0⟩

/-- The host sets a mode. Its read of two chunks keeps the tick that brings the input from polling
it. -/
def asksForInput (mode : UInt8) (device : Nat) (input : Gamepad) : List Input :=
  [outputReport [outputReportIdReportMode, 0x00, mode],
    outputReport [outputReportIdReadData, 0x00, 0x00, 0x00, 0x00, 0x00, 0x20],
    .timer [.input device input]]

def shakenDevice (id : Nat) : EgcDevice := ⟨id, ⟨0xFFFF, 0, 1⟩⟩

def pollsChange (w : WiimoteId) (state : World × Feed) : Bool :=
  match callStep state.1 (.tick w) with
  | .error _ => false
  | .ok u =>
      decide (state.1.core.Agree ∧ Undisturbed w state.1 (.tick w) u ∧
        tickBranch state.1.core state.1.periphery w = .dataReport ∧
          pollOf state.1.core state.1.periphery w ≠ state.2.poll)

theorem pollsChange_tick {w : WiimoteId} {state : World × Feed}
    (change : pollsChange w state = true) :
    ∃ u, callStep state.1 (.tick w) = .ok u ∧ state.1.core.Agree ∧
      Undisturbed w state.1 (.tick w) u ∧
        tickBranch state.1.core state.1.periphery w = .dataReport ∧
          pollOf state.1.core state.1.periphery w ≠ state.2.poll := by
  unfold pollsChange at change
  split at change
  · cases change
  · rename_i u run
    exact ⟨u, run, of_decide_eq_true change⟩

theorem no_input_change_lost_pressed :
    ∃ r s first t last u,
      ReportRun 0 (fun s c => s.core.Agree ∧ Undisturbing 0 s c) r s first t last ∧
      Told 0 t last ∧ callStep t (.tick 0) = .ok u ∧ Follows 0 t u last.poll ∧
      (injectedReport t u).isSome = true := by
  obtain ⟨r, s, first, ⟨t, last⟩, ⟨reached, reports, run⟩, paired, change⟩ :=
    @exists_of_replay 0 (fun s c => s.core.Agree ∧ Undisturbing 0 s c) _
      (hostOpens ++ asksForInput inputReportIdBtnExp8 1 (pressed 0x0001 0))
      (afterTick ++ untilTick [.input 1 (pressed 0x0002 0)] ++ [.tick 0] ++ afterTick ++
        untilTick [.input 1 (pressed 0x0001 0)])
      (fun r => decide r.core.Agree) (pollsChange 0) (by decide +kernel)
  obtain ⟨u, ticked, agree, undisturbed, polls, other⟩ := pollsChange_tick change
  have lost := no_input_change_lost reached (of_decide_eq_true paired) reports run
  have follows := lost.2 u ticked agree undisturbed polls
  exact ⟨r, s, first, t, last, u, ⟨reached, reports, run⟩, lost.1, ticked, follows,
    follows.injects.mpr other⟩

def takesStaleSlot : List Input :=
  [writeScanEnable, .timer [.added (fullDevice 1), .added (fullDevice 2)], rejectCon 1,
    rejectCon 0, .timer [.removed 2, .added (fullDevice 2)], acceptCon 0] ++ hostOpens.drop 3

def rejectsAgain : List Call :=
  afterTick ++ [.hciCommand ([0x0A, 0x04, 7] ++ (fakeWiimoteBdaddr 1).val ++ [0])] ++
    untilTick [.removed 2, .added (fullDevice 2), .input 2 (pressed 0x0002 0)] ++ [.tick 0]

/-- A move of the accelerometer sets no dirty flag, although it changes bits of the buttons. Where
two fake Wiimotes point to one controller, the rejection of the other's connection takes the
controller away, and the tick that still polls it reports to the other session. -/
theorem input_change_unreported :
    (∃ r s first t last,
      ReportRun 0 (fun s c => s.core.Agree ∧ Undisturbing 0 s c) r s first t last ∧
      r.core.Agree ∧ (t.periphery.sessions 0).inputDirty = false ∧
      last.report.word ≠ (t.periphery.sessions 0).buttonWord) ∧
    ∃ r s first t last, ReportRun 0 (Undisturbing 0) r s first t last ∧
      (t.periphery.sessions 0).held ≠ last.poll := by
  constructor
  · obtain ⟨r, s, first, last, run, paired, unreported⟩ :=
      @exists_of_replay 0 (fun s c => s.core.Agree ∧ Undisturbing 0 s c) _
        (hostOpens.set 1 (.timer [.added (shakenDevice 1)]) ++
          asksForInput inputReportIdBtnAccExp 1 (pressed 0x0001 1))
        (afterTick ++ untilTick [.input 1 (pressed 0x0001 2)] ++ [.tick 0])
        (fun r => decide r.core.Agree)
        (fun state => decide ((state.1.periphery.sessions 0).inputDirty = false ∧
          state.2.report.word ≠ (state.1.periphery.sessions 0).buttonWord)) (by decide +kernel)
    exact ⟨r, s, first, last.1, last.2, run, of_decide_eq_true paired,
      of_decide_eq_true unreported⟩
  · obtain ⟨r, s, first, last, run, -, misheld⟩ :=
      @exists_of_replay 0 (Undisturbing 0) _
        (takesStaleSlot ++ asksForInput inputReportIdBtnExp8 2 (pressed 0x0001 0)) rejectsAgain
        (fun _ => true)
        (fun state => decide ((state.1.periphery.sessions 0).held ≠ state.2.poll))
        (by decide +kernel)
    exact ⟨r, s, first, last.1, last.2, run, of_decide_eq_true misheld⟩

end Fakemote
