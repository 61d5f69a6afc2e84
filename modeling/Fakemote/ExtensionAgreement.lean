import Fakemote.ControllerPairing
import Fakemote.DeedFrames
import Fakemote.FreshSession

/-! The extension of a controller's mapping and the one its fake Wiimote announces: they agree once
the mapping has been switched in the session, and a session starts without any extension. -/

namespace Fakemote

open Bytes Program Transition Ledger Labelled

theorem callStep_path {s t : World} {c : Call} (made : Made s c) (run : callStep s c = .ok t) :
    ∃ labels, s.ledger.Path labels t.ledger := by
  have run := callStep_ok.mp run
  have still (same : t.ledger = s.ledger) : ∃ labels, s.ledger.Path labels t.ledger := ⟨[], same⟩
  cases c with
  | hciCommand data =>
      obtain ⟨result, _, first, run⟩ := bind_ok.mp run
      cases run
      obtain ⟨labels, -, path⟩ := hciCommand_moves first
      exact ⟨labels, path⟩
  | count w =>
      cases run
      exact ⟨[.consume w], made, rfl⟩
  | command w code ident payload size =>
      obtain ⟨labels, -, -, path⟩ := handleL2capSignalChannel_path run
      exact ⟨labels, path⟩
  | channelData w dcid payload length =>
      exact still (onDevice_ledger (fun dev => dev.calm_handleChannelData _ _ _) run)
  | bufferRequest ep msg => exact still (bufferRequest_ledger run)
  | handDownReply ep retval written =>
      obtain ⟨labels, -, path⟩ := handDownReply_moves run
      exact ⟨labels, path⟩
  | egcEvent event =>
      obtain ⟨labels, -, path⟩ := Ticks.handleEgcEvent event _ _ _ run
      exact ⟨labels, path⟩
  | tickSlots => exact ⟨[.tickSlots], trivial, inputDevicesTick_ledger run⟩
  | assign w =>
      obtain ⟨_, _, got, run⟩ := bind_ok.mp run
      cases got
      obtain ⟨labels, -, path⟩ := (Ticks.checkAssignInputDevice w).when _ _ _ run
      exact ⟨labels, path⟩
  | tick w =>
      obtain ⟨labels, -, path⟩ := Ticks.tickActive w _ _ _ run
      exact ⟨labels, path⟩
  | completedPackets =>
      obtain ⟨placed, path⟩ := sendEventNumberOfCompletedPackets_ledger run
      exact ⟨[.credit placed], trivial, path⟩

theorem CallRun.drives {env : Environment} {condition : World → Call → Prop} {s : World}
    (reached : CallRun env condition s) {d : SlotId} {w : WiimoteId}
    (device : (s.core.slots d).device.isSome)
    (assigned : (s.core.slots d).assignedWiimote = some w) : s.core.Drives d w := by
  have backed : Pairing.Backed s.core.controllerOf s.core.wiimoteOf := by
    apply reached.invariant (fun s => Pairing.Backed s.core.controllerOf s.core.wiimoteOf)
      (init_backed env)
    intro s t c holds ok run
    obtain ⟨labels, path⟩ := callStep_path ok.1 run
    apply path.invariant (fun a => Pairing.Backed a.core.controllerOf a.core.wiimoteOf) holds
    intro a label holds enabled
    exact act_backed enabled holds
  have named := backed w d (wiimoteOf_eq_some.mpr ⟨device, assigned⟩)
  exact ⟨controllerOf_inputDevice named, device, assigned⟩

def Session.ports (wiimote : Session) : WiimoteExt × WiimoteExt :=
  (wiimote.curExtension, wiimote.newExtension)

theorem Deed.session_ports {egc : Platform} {deed : Deed} (wiimote : Session)
    (unswitched : ∀ d v ext, deed ≠ .switch d v ext)
    (unchanged : ∀ padding placed, deed ≠ .change padding placed) :
    (deed.session egc wiimote).ports = wiimote.ports := by
  have channel (chn : Channel) (info : L2capChannelInfo) :
      (wiimote.setChannel chn info).ports = wiimote.ports := by
    cases chn <;> rfl
  cases deed with
  | request chn psm localCid => exact channel _ _
  | configure chn placed =>
      cases placed with
      | true => exact channel _ _
      | false => rfl
  | recordCid chn remoteCid => exact channel _ _
  | recordMtu chn mtu ident options placed => exact channel _ _
  | complete chn => exact channel _ _
  | close chn ident dcid scid placed => exact channel _ _
  | chunk placed =>
      obtain ⟨key, dirty, request, same⟩ := afterChunk_session egc.memory wiimote
      have after := congrArg Session.ports same
      exact after
  | write data placed =>
      obtain ⟨irRegs, extensionRegs, dirty, eeprom, same⟩ :=
        Device.writeMemory_session wiimote data
      have after := congrArg Session.ports same
      exact after
  | feed d v ext input accelerometer irDots =>
      obtain ⟨accX, accY, accZ, ir, buttons, dirty, regs, same⟩ :=
        feed_session egc wiimote d v ext input accelerometer irDots
      have after := congrArg Session.ports same
      exact after
  | report placed =>
      obtain ⟨key, dirty, same⟩ := report_session egc wiimote placed
      have after := congrArg Session.ports same
      exact after
  | switch d v ext => exact absurd rfl (unswitched d v ext)
  | change padding placed => exact absurd rfl (unchanged padding placed)
  | _ => rfl

/-- The tick detaches the extension in use, or attaches the one asked for. -/
theorem afterChange_ports (wiimote : Session) :
    wiimote.afterChange.ports =
      (if wiimote.curExtension = .none then wiimote.newExtension else .none,
        wiimote.newExtension) := rfl

/-- Mapped extensions are those of controllers, no extension is in use before one has been asked
for, and what was asked for last is what the slot maps. -/
structure PortsAgree (core : Core) (a : Air) : Prop where
  mapped : ∀ d, (core.slots d).device.isSome →
    a.extensions d = .nunchuk ∨ a.extensions d = .classic
  unused : ∀ w, (a.sessions w).newExtension = .none → (a.sessions w).curExtension = .none
  asked : ∀ d w, core.Drives d w →
    (a.sessions w).newExtension = .none ∨ (a.sessions w).newExtension = a.extensions d

/-- Every slot with a controller drives the fake Wiimote that it is assigned to. -/
def SlotsDrive (core : Core) : Prop :=
  ∀ d w, (core.slots d).device.isSome → (core.slots d).assignedWiimote = some w → core.Drives d w

theorem Air.act_ports {egc : Platform} {dev : Device} {a : Air} {deed : Deed}
    (unswitched : ∀ d v ext, deed ≠ .switch d v ext)
    (unchanged : ∀ padding placed, deed ≠ .change padding placed) (w : WiimoteId) :
    ((a.act egc dev deed).sessions w).ports = (a.sessions w).ports := by
  dsimp only [Air.act]
  by_cases target : w = deed.target dev.self
  · subst target
    rw [Function.update_self]
    exact Deed.session_ports _ unswitched unchanged
  · rw [Function.update_of_ne target]

namespace PortsAgree

variable {core : Core} {a b : Air}

theorem keep (agree : PortsAgree core a) (extensions : b.extensions = a.extensions)
    (ports : ∀ w, (b.sessions w).ports = (a.sessions w).ports) : PortsAgree core b := by
  have cur (w : WiimoteId) : (b.sessions w).curExtension = (a.sessions w).curExtension :=
    congrArg Prod.fst (ports w)
  have new (w : WiimoteId) : (b.sessions w).newExtension = (a.sessions w).newExtension :=
    congrArg Prod.snd (ports w)
  refine ⟨?_, ?_, ?_⟩
  · intro d device
    rw [extensions]
    exact agree.mapped d device
  · intro w none
    rw [new] at none
    rw [cur]
    exact agree.unused w none
  · intro d w drives
    rw [extensions, new]
    exact agree.asked d w drives

theorem switch {egc : Platform} {dev : Device} {d : SlotId} {v : WiimoteId} {ext : WiimoteExt}
    (agree : PortsAgree dev.core a) (owned : SlotsDrive dev.core)
    (enabled : Air.Enabled dev a (.switch d v ext)) :
    PortsAgree dev.core (a.act egc dev (.switch d v ext)) := by
  obtain ⟨⟨-, device, assigned⟩, asked⟩ := enabled
  have kind : ext = .nunchuk ∨ ext = .classic := by
    rw [asked]
    split
    · exact Or.inr rfl
    · exact Or.inl rfl
  have session : (a.act egc dev (.switch d v ext)).sessions =
      Function.update a.sessions v ((a.sessions v).fakeWiimoteSetExtension ext) := rfl
  have extensions : (a.act egc dev (.switch d v ext)).extensions =
      Function.update a.extensions d ext := rfl
  refine ⟨?_, ?_, ?_⟩
  · intro e holds
    rw [extensions]
    by_cases same : e = d
    · subst same
      rw [Function.update_self]
      exact kind
    · rw [Function.update_of_ne same]
      exact agree.mapped e holds
  · intro w none
    rw [session] at none ⊢
    by_cases same : w = v
    · subst same
      rw [Function.update_self] at none
      have absent : ext = .none := none
      rcases kind with h | h <;> rw [h] at absent <;> cases absent
    · rw [Function.update_of_ne same] at none ⊢
      exact agree.unused w none
  · intro e w drives
    rw [session, extensions]
    by_cases same : w = v
    · subst same
      have pointer := (owned d w device assigned).1
      have here : e = d := Option.some.inj (drives.1.symm.trans pointer)
      subst here
      rw [Function.update_self, Function.update_self]
      exact Or.inr rfl
    · have apart : e ≠ d := by
        intro here
        subst here
        exact same (Option.some.inj (drives.2.2.symm.trans assigned))
      rw [Function.update_of_ne same, Function.update_of_ne apart]
      exact agree.asked e w drives

theorem change {egc : Platform} {dev : Device} {padding : List UInt8} {placed : Bool}
    (agree : PortsAgree dev.core a) : PortsAgree dev.core (a.act egc dev (.change padding placed)) := by
  have session : (a.act egc dev (.change padding placed)).sessions =
      Function.update a.sessions dev.self (a.sessions dev.self).afterChange := rfl
  refine ⟨agree.mapped, ?_, ?_⟩
  · intro w none
    rw [session] at none ⊢
    by_cases same : w = dev.self
    · subst same
      rw [Function.update_self] at none ⊢
      have absent : (a.sessions dev.self).newExtension = .none := none
      change (if (a.sessions dev.self).curExtension = .none then
        (a.sessions dev.self).newExtension else .none) = .none
      rw [absent]
      exact ite_self _
    · rw [Function.update_of_ne same] at none ⊢
      exact agree.unused w none
  · intro d w drives
    rw [session]
    by_cases same : w = dev.self
    · subst same
      rw [Function.update_self]
      exact agree.asked d dev.self drives
    · rw [Function.update_of_ne same]
      exact agree.asked d w drives

theorem act {egc : Platform} {dev : Device} {deed : Deed} (agree : PortsAgree dev.core a)
    (owned : SlotsDrive dev.core) (enabled : Air.Enabled dev a deed) :
    PortsAgree dev.core (a.act egc dev deed) := by
  by_cases switched : ∃ d v ext, deed = .switch d v ext
  · obtain ⟨d, v, ext, rfl⟩ := switched
    exact agree.switch owned enabled
  · by_cases changed : ∃ padding placed, deed = .change padding placed
    · obtain ⟨padding, placed, rfl⟩ := changed
      exact agree.change
    · apply agree.keep
      · cases deed with
        | switch d v ext => exact absurd ⟨d, v, ext, rfl⟩ switched
        | _ => rfl
      · apply Air.act_ports
        · exact fun d v ext same => switched ⟨d, v, ext, same⟩
        · exact fun padding placed same => changed ⟨padding, placed, same⟩

theorem performs {dev : Device} {p q : Periphery} {deeds : List Deed}
    (agree : PortsAgree dev.core p.air) (owned : SlotsDrive dev.core)
    (performed : dev.Performs p deeds q) : PortsAgree dev.core q.air := by
  apply performed.path.invariant (PortsAgree dev.core) agree
  intro a deed holds enabled
  exact holds.act owned enabled

end PortsAgree

theorem Aloof.ports {s t : World} (aloof : Aloof s t) (agree : PortsAgree s.core s.periphery.air) :
    PortsAgree t.core t.periphery.air := by
  refine ⟨?_, ?_, ?_⟩
  · intro d device
    have kind := agree.mapped d (aloof.devices d device)
    dsimp only [Periphery.air] at kind ⊢
    rwa [aloof.extensions]
  · intro w none
    dsimp only [Periphery.air] at none ⊢
    rw [aloof.sessions] at none ⊢
    exact agree.unused w none
  · intro d w drives
    have asked := agree.asked d w (aloof.drives d w drives)
    dsimp only [Periphery.air] at asked ⊢
    rwa [aloof.sessions, aloof.extensions]

theorem PortsAgree.plug {s : World} {d : SlotId} {device : EgcDevice}
    (agree : PortsAgree s.core s.periphery.air) :
    PortsAgree (s.plugged d device).core (s.plugged d device).periphery.air := by
  have mapping (e : SlotId) : (s.plugged d device).periphery.air.extensions e =
      if e = d then .nunchuk else s.periphery.air.extensions e := by
    by_cases same : e = d
    · subst same
      simp [World.plugged, Periphery.air, Mapping.added]
    · simp [World.plugged, Periphery.air, same]
  refine ⟨?_, agree.unused, ?_⟩
  · intro e holds
    rw [mapping]
    by_cases same : e = d
    · rw [if_pos same]
      exact Or.inl rfl
    · have slot : (s.plugged d device).core.slots e = s.core.slots e := by
        simp [World.plugged, same]
      rw [if_neg same]
      exact agree.mapped e (slot ▸ holds)
  · intro e w drives
    by_cases same : e = d
    · subst same
      have assigned := drives.2.2
      simp [World.plugged] at assigned
    · have slot : (s.plugged d device).core.slots e = s.core.slots e := by
        simp [World.plugged, same]
      rw [mapping, if_neg same]
      exact agree.asked e w ⟨drives.1, slot ▸ drives.2⟩

theorem PortsAgree.assign {s : World} {w : WiimoteId} {d : SlotId}
    (agree : PortsAgree s.core s.periphery.air) :
    PortsAgree (s.assigned w d).core (s.assigned w d).periphery.air := by
  have device (e : SlotId) : ((s.assigned w d).core.slots e).device = (s.core.slots e).device := by
    by_cases same : e = d
    · subst same
      simp [World.assigned]
    · simp [World.assigned, same]
  refine ⟨?_, ?_, ?_⟩
  · intro e holds
    exact agree.mapped e (device e ▸ holds)
  · intro v none
    by_cases same : v = w
    · subst same
      dsimp only [Periphery.air]
      rw [s.assigned_session_same]
      rfl
    · dsimp only [Periphery.air] at none ⊢
      rw [s.assigned_session_other d same] at none ⊢
      exact agree.unused v none
  · intro e v drives
    dsimp only [Periphery.air]
    by_cases same : v = w
    · subst same
      rw [s.assigned_session_same]
      exact Or.inl rfl
    · rw [s.assigned_session_other d same]
      have pointer := drives.1
      rw [s.assigned_link_other d same] at pointer
      have apart : e ≠ d := by
        intro here
        subst here
        have assigned := drives.2.2
        simp only [World.assigned, setLink_slots, setSlot_slots, Function.update_self,
          Option.some.injEq] at assigned
        exact same assigned.symm
      have slot : (s.assigned w d).core.slots e = s.core.slots e := by
        simp [World.assigned, apart]
      exact agree.asked e v ⟨pointer, slot ▸ drives.2⟩

theorem PortsAgree.accept {s : World} {w : WiimoteId}
    (agree : PortsAgree s.core s.periphery.air) :
    PortsAgree (s.accepted w).core (s.accepted w).periphery.air := by
  have core (d : SlotId) (v : WiimoteId) (drives : (s.accepted w).core.Drives d v) :
      s.core.Drives d v := by
    refine ⟨?_, drives.2⟩
    have pointer := drives.1
    by_cases same : v = w
    · subst same
      simpa [World.accepted] using pointer
    · rwa [s.accepted_link_other same] at pointer
  have same : PortsAgree s.core (s.accepted w).periphery.air := by
    refine agree.keep ?_ ?_
    · rfl
    intro v
    dsimp only [Periphery.air]
    by_cases here : v = w
    · subst here
      rw [s.accepted_session_same]
      rfl
    · rw [s.accepted_session_other here]
  exact ⟨same.mapped, same.unused, fun d v drives => same.asked d v (core d v drives)⟩

theorem Effect.ports {s t : World} {c : Call} (effect : Effect s c t) (owned : SlotsDrive s.core)
    (agree : PortsAgree s.core s.periphery.air) : PortsAgree t.core t.periphery.air := by
  cases effect with
  | aloof aloof => exact aloof.ports agree
  | plug free => exact agree.plug
  | assign inactive found => exact agree.assign
  | accept before after => exact after.ports (before.ports agree).accept
  | tick _ _ performed _ => exact agree.performs owned performed
  | command _ _ performed => exact agree.performs owned performed
  | output _ performed => exact agree.performs owned performed

theorem CallRun.ports {env : Environment} {condition : World → Call → Prop} {s : World}
    (reached : CallRun env condition s) : PortsAgree s.core s.periphery.air := by
  induction reached with
  | start =>
      refine ⟨?_, ?_, ?_⟩
      · intro d device
        cases device
      · intro w none
        rfl
      · intro d w drives
        exact Or.inl rfl
  | next reached ok run ih =>
      exact (callStep_effect run).ports (fun d w => CallRun.drives reached) ih

theorem inputDeviceReportInput_writes {core : Core} {inputDevice : Option SlotId}
    {p q : Periphery} (run : inputDeviceReportInput core inputDevice p = .ok (true, q)) :
    ∃ d v, inputDevice = some d ∧ (core.slots d).device.isSome ∧
      (core.slots d).assignedWiimote = some v := by
  obtain ⟨d, _, first, run⟩ := bind_ok.mp run
  obtain ⟨points, rfl⟩ := deref_ok first
  obtain ⟨device, _, second, run⟩ := bind_ok.mp run
  obtain ⟨holds, rfl⟩ := deref_ok second
  obtain ⟨_, _, got, run⟩ := bind_ok.mp run
  cases got
  obtain ⟨_, p1, held, run⟩ := bind_ok.mp run
  rcases ite_run run with ⟨-, run⟩ | ⟨-, run⟩
  · obtain ⟨_, _, _, run⟩ := bind_ok.mp run
    obtain ⟨v, _, _, run⟩ := bind_ok.mp run
    obtain ⟨_, _, _, run⟩ := bind_ok.mp run
    cases run
  · obtain ⟨_, p2, checked, run⟩ := bind_ok.mp run
    obtain ⟨_, p3, reported, run⟩ := bind_ok.mp run
    obtain ⟨_, _, got, reported⟩ := bind_ok.mp reported
    cases got
    obtain ⟨v, _, third, reported⟩ := bind_ok.mp reported
    obtain ⟨assigned, rfl⟩ := deref_ok third
    exact ⟨d, v, points, by rw [holds]; rfl, assigned⟩

/-- Inputs are written in the format of the extension in use exactly when an extension has been
asked for in the session, and is in use. -/
theorem extension_agrees_iff {env : Environment} {s : World} (reached : CallRun env anyCall s)
    (u : WiimoteId) (q : Periphery)
    (run : inputDeviceReportInput s.core (s.core.links u).inputDevice s.periphery =
      .ok (true, q)) :
    ∃ d v ext, (s.core.links u).inputDevice = some d ∧
      (s.core.slots d).assignedWiimote = some v ∧ (s.periphery.mappings d).extension = ext ∧
      (ext = .nunchuk ∨ ext = .classic) ∧
      ((s.periphery.sessions v).curExtension = ext ↔
        (s.periphery.sessions v).newExtension ≠ .none ∧
          (s.periphery.sessions v).newExtension = (s.periphery.sessions v).curExtension) := by
  obtain ⟨d, v, points, device, assigned⟩ := inputDeviceReportInput_writes run
  have agree := reached.ports
  have drives := reached.drives device assigned
  have kind := agree.mapped d device
  refine ⟨d, v, _, points, assigned, rfl, kind, ?_⟩
  have some : (s.periphery.mappings d).extension ≠ .none := by
    intro none
    rcases kind with h | h <;> cases none.symm.trans h
  constructor
  · intro cur
    have new : (s.periphery.sessions v).newExtension ≠ .none := by
      intro none
      exact some (cur.symm.trans (agree.unused v none))
    refine ⟨new, ?_⟩
    rcases agree.asked d v drives with none | asked
    · exact absurd none new
    · exact asked.trans cur.symm
  · rintro ⟨new, current⟩
    rcases agree.asked d v drives with none | asked
    · exact absurd none new
    · exact current.symm.trans asked

def firstReport (s : World) : Except Fault (Bool × Periphery) :=
  inputDeviceReportInput s.core (s.core.links 0).inputDevice s.periphery

theorem firstReport_ok {s : World} (check : Periphery → Bool)
    (checked : (firstReport s).toOption.any (fun result => result.1 && check result.2) = true) :
    ∃ q, inputDeviceReportInput s.core (s.core.links 0).inputDevice s.periphery = .ok (true, q) ∧
      check q = true := by
  obtain ⟨⟨report, q⟩, run, both⟩ := exists_of_step checked
  rw [Bool.and_eq_true] at both
  obtain ⟨rfl, holds⟩ := both
  exact ⟨q, run, holds⟩

/-- In the first session no extension is in use, and Nunchuk data are written. -/
theorem nunchuk_data_without_extension :
    ∃ (s : World) (q : Periphery), Run .gamepad anyInput s ∧
      inputDeviceReportInput s.core (s.core.links 0).inputDevice s.periphery = .ok (true, q) ∧
      (s.core.slots 0).assignedWiimote = some 0 ∧
      (s.periphery.mappings 0).extension = .nunchuk ∧
      (s.periphery.sessions 0).curExtension = .none ∧
      (s.periphery.sessions 0).extensionRegs.read controllerDataOffset 6 = List.replicate 6 0 ∧
      (q.sessions 0).extensionRegs.read controllerDataOffset 6 =
        [0x80, 0x80, 0, 0, 0, 3] := by
  obtain ⟨s, reached, check⟩ : ∃ s, Run .gamepad anyInput s ∧
      decide ((s.core.slots 0).assignedWiimote = some 0 ∧
        (s.periphery.mappings 0).extension = .nunchuk ∧
        (s.periphery.sessions 0).curExtension = .none ∧
        (s.periphery.sessions 0).extensionRegs.read controllerDataOffset 6 =
          List.replicate 6 0 ∧
        (firstReport s).toOption.any (fun result => result.1 &&
          decide ((result.2.sessions 0).extensionRegs.read controllerDataOffset 6 =
            [0x80, 0x80, 0, 0, 0, 3])) = true) = true :=
    exists_of_execute hostOpens (by decide +kernel)
  obtain ⟨assigned, mapped, cur, before, reported⟩ := of_decide_eq_true check
  obtain ⟨q, run, after⟩ := firstReport_ok
    (fun q => (q.sessions 0).extensionRegs.read controllerDataOffset 6 = [0x80, 0x80, 0, 0, 0, 3])
    reported
  exact ⟨s, q, reached, run, assigned, mapped, cur, before, of_decide_eq_true after⟩

/-- After a switch of the mapping Classic Controller data are written, and it is in use. -/
theorem extension_agrees_iff_switched :
    ∃ (s : World) (q : Periphery), CallRun .gamepad anyCall s ∧
      inputDeviceReportInput s.core (s.core.links 0).inputDevice s.periphery = .ok (true, q) ∧
      ∃ v ext, (s.core.slots 0).assignedWiimote = some v ∧
        (s.periphery.mappings 0).extension = ext ∧ (s.periphery.sessions v).curExtension = ext := by
  obtain ⟨s, reached, check⟩ : ∃ s, Run .gamepad anyInput s ∧
      decide ((s.core.links 0).inputDevice = some 0 ∧
        (s.core.slots 0).assignedWiimote = some 0 ∧
        (s.periphery.sessions 0).newExtension = .classic ∧
        (s.periphery.sessions 0).curExtension = .classic ∧
        (firstReport s).toOption.any (fun result => result.1 && true) = true) = true :=
    exists_of_execute (hostOpens ++ switchesMapping) (by decide +kernel)
  obtain ⟨points, assigned, new, cur, reported⟩ := of_decide_eq_true check
  obtain ⟨q, run, -⟩ := firstReport_ok (fun _ => true) reported
  obtain ⟨d, v, ext, pointer, owner, mapped, -, agrees⟩ :=
    extension_agrees_iff reached.calls 0 q run
  have slot : d = 0 := Option.some.inj (pointer.symm.trans points)
  subst slot
  have self : v = 0 := Option.some.inj (owner.symm.trans assigned)
  subst self
  refine ⟨s, q, reached.calls, run, 0, ext, owner, mapped, agrees.mpr ⟨?_, ?_⟩⟩
  · rw [new]
    decide
  · rw [new, cur]

end Fakemote
