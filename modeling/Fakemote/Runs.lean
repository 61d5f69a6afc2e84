import Fakemote.Moves
import Fakemote.Traffic

/-! Runs of the module from its initialisation, and the rule by which a property of the ledger
holds throughout them. -/

namespace Fakemote

open Bytes Program Ledger Transition

/-- The states of the runs whose steps all meet `condition`. -/
def Run (env : Environment) (condition : World → Input → Prop) : World → Prop :=
  Reachable step (fun s input => Possible s input ∧ condition s input) (World.init env)

def anyInput (_ : World) (_ : Input) : Prop := True

theorem step_ledger {property : Ledger → Prop} {safe : Core → Label → Prop} {s t : World}
    {input : Input} (run : step s input = .ok t)
    (along : ∀ labels, Moves s input labels → s.ledger.Path labels t.ledger →
      s.ledger.Along safe labels)
    (kept : ∀ a label, property a → a.Enabled label → safe a.core label → property (a.act label))
    (start : property s.ledger) : property t.ledger := by
  obtain ⟨labels, moves, path⟩ := step_moves run
  exact path.safe_invariant property (along labels moves path) start kept

theorem Run.ledger_invariant {env : Environment} {condition : World → Input → Prop} {s : World}
    {safe : Core → Label → Prop} (property : Ledger → Prop) (reached : Run env condition s)
    (initial : property (World.init env).ledger)
    (along : ∀ (s : World) input labels (b : Ledger), property s.ledger → condition s input →
      Moves s input labels → s.ledger.Path labels b → s.ledger.Along safe labels)
    (kept : ∀ a label, property a → a.Enabled label → safe a.core label →
      property (a.act label)) :
    property s.ledger := by
  refine reached.invariant (fun s => property s.ledger) initial
    fun s t input holds allowed run => ?_
  exact step_ledger run (fun labels moves path => along s input labels _ holds allowed.2 moves path)
    kept holds

theorem Run.unguarded_invariant {env : Environment} {condition : World → Input → Prop} {s : World}
    (property : Ledger → Prop) (reached : Run env condition s)
    (initial : property (World.init env).ledger)
    (kept : ∀ a label, property a → a.Enabled label → property (a.act label)) :
    property s.ledger := by
  have always (a : Ledger) (labels : List Label) : a.Along (fun _ _ => True) labels :=
    Labelled.Along.always (fun _ _ _ => trivial) a
  exact reached.ledger_invariant property initial
    (fun s _ labels _ _ _ _ _ => always s.ledger labels)
    fun a label holds enabled _ => kept a label holds enabled

theorem Run.traffic_invariant {env : Environment} {condition : World → Input → Prop} {s : World}
    (property : Traffic → Prop) (reached : Run env condition s)
    (initial : property (World.init env).traffic)
    (kept : ∀ f g, property f → Flow f g → property g) : property s.traffic := by
  refine reached.invariant (fun s => property s.traffic) initial
    fun s t input holds allowed run => ?_
  exact (step_flows allowed.1 run).invariant property holds kept

theorem Run.sound {env : Environment} {condition : World → Input → Prop} {s : World}
    (reached : Run env condition s) (ep : EndpointId) : (s.endpoint ep).Sound := by
  refine reached.traffic_invariant (fun f => ∀ ep, (f.endpoint ep).Sound) ?_
    (fun f g sound flow => flow.sound sound) ep
  intro ep
  cases ep with
  | intr => exact Endpoint.init_sound 8 8 env.refuseIntr
  | bulkIn => exact Endpoint.init_sound 16 16 env.refuseBulkIn

theorem Run.limits {env : Environment} {condition : World → Input → Prop} {s : World}
    (reached : Run env condition s) (ep : EndpointId) :
    (s.endpoint ep).limits = ((World.init env).endpoint ep).limits :=
  reached.traffic_invariant
    (fun f => (f.endpoint ep).limits = ((World.init env).endpoint ep).limits) rfl
    fun _ _ same flow => (flow.limits ep).trans same

/-- The moves that a condition can be about. -/
def Label.guarded : Label → Bool
  | .accept _ | .disconnect _ _ | .forget _ | .reset | .consume _ | .credit _
  | .reply _ _ _ _ _ => true
  | _ => false

theorem EventsOnly.free {labels : List Label} (events : EventsOnly labels) :
    ∀ label ∈ labels, label.guarded = false := by
  intro label member
  obtain ⟨_, _, _, rfl⟩ := events label member
  rfl

theorem TimerMove.free {label : Label} (timed : TimerMove label) : label.guarded = false := by
  cases timed <;> rfl

section Along

variable {safe : Core → Label → Prop} {a b : Ledger} {labels : List Label}

theorem along_free (free : ∀ core label, label.guarded = false → safe core label)
    (unguarded : ∀ label ∈ labels, label.guarded = false) : a.Along safe labels :=
  Labelled.Along.always (fun label member a => free a.core label (unguarded label member)) a

theorem along_events_then {label : Label}
    (free : ∀ core label, label.guarded = false → safe core label) (events : EventsOnly labels)
    (path : a.Path (labels ++ [label]) b) (last : safe a.core label) :
    a.Along safe (labels ++ [label]) := by
  obtain ⟨middle, before, -⟩ := path.split
  refine Labelled.Along.append before (along_free free events.free) ⟨?_, trivial⟩
  change safe middle.core label
  rw [(events.shift a.core before).1]
  exact last

theorem Moves.along {s : World} {input : Input} (moves : Moves s input labels)
    (path : s.ledger.Path labels b)
    (free : ∀ core label, label.guarded = false → safe core label)
    (accept : ∀ data w, input = .hciCommand data →
      addressed hciCmdAcceptCon s.core data = some w → safe s.core (.accept w))
    (reject : ∀ data w placed, input = .hciCommand data →
      addressed hciCmdRejectCon s.core data = some w → safe s.core (.disconnect w placed))
    (disconnect : ∀ data w placed, input = .hciCommand data →
      owner s.core (commandHandle data) = some w → safe s.core (.disconnect w placed))
    (forget : ∀ data w core, input = .hciCommand data → commandOpcode data = some hciCmdReset →
      safe core (.forget w))
    (reset : ∀ data core, input = .hciCommand data → commandOpcode data = some hciCmdReset →
      safe core .reset)
    (consume : ∀ data w disconnects, input = .aclOut data →
      owner s.core (aclHandle data) = some w → Disconnects w disconnects →
      disconnects.length = aclFailedResponses data →
      s.ledger.Along safe (.consume w :: disconnects))
    (credit : ∀ events moves placed middle, input = .timer events →
      (∀ label ∈ moves, TimerMove label) → s.ledger.Path moves middle → safe middle.core (.credit placed))
    (reply : ∀ retval written tracked hci placed,
      input = .handDownReply .intr retval written →
      s.ledger.Enabled (.reply retval (s.intr.filled written) tracked hci placed) →
      safe s.core (.reply retval (s.intr.filled written) tracked hci placed)) :
    s.ledger.Along safe labels := by
  cases moves with
  | accept found events => exact along_events_then free events path (accept _ _ rfl found)
  | reject found => exact ⟨reject _ _ _ rfl found, trivial⟩
  | disconnect opcode found events =>
      exact along_events_then free events path (disconnect _ _ _ rfl found)
  | reset opcode =>
      exact ⟨forget _ _ _ rfl opcode, forget _ _ _ rfl opcode, reset _ _ rfl opcode, trivial⟩
  | answer unanswering events => exact along_free free events.free
  | forward unanswering events => exact along_events_then free events path (free _ _ rfl)
  | consume found disconnects length => exact consume _ _ _ rfl found disconnects length
  | translate found => trivial
  | bufferRequest => trivial
  | bulkInReply => trivial
  | intrReply => exact ⟨reply _ _ _ _ _ rfl path.1, trivial⟩
  | timer timed =>
      obtain ⟨middle, before, -⟩ := path.split
      have timers := @along_free _ s.ledger _ free fun label member => (timed label member).free
      exact Labelled.Along.append before timers ⟨credit _ _ _ _ rfl timed before, trivial⟩

end Along

@[simp] theorem place_core (a : Ledger) (code : UInt8) (data : List UInt8) (placed : Bool) :
    (a.place code data placed).core = a.core := by
  unfold place
  split <;> rfl

@[simp] theorem place_suspends (a : Ledger) (code : UInt8) (data : List UInt8) (placed : Bool) :
    (a.place code data placed).suspends = a.suspends := by
  unfold place
  split <;> rfl

@[simp] theorem release_links (a : Ledger) (d : Option SlotId) :
    (a.release d).core.links = a.core.links := by
  cases d <;> rfl

@[simp] theorem release_hci (a : Ledger) (d : Option SlotId) :
    (a.release d).core.hci = a.core.hci := by
  cases d <;> rfl

@[simp] theorem setLink_slots (core : Core) (w : WiimoteId) (f : Link → Link) :
    (core.setLink w f).slots = core.slots := rfl

@[simp] theorem setLink_hci (core : Core) (w : WiimoteId) (f : Link → Link) :
    (core.setLink w f).hci = core.hci := rfl

@[simp] theorem setLink_links (core : Core) (w : WiimoteId) (f : Link → Link) :
    (core.setLink w f).links = Function.update core.links w (f (core.links w)) := rfl

theorem setLink_same (core : Core) (w : WiimoteId) (f : Link → Link) :
    (core.setLink w f).links w = f (core.links w) :=
  Function.update_self _ _ _

theorem setLink_other {core : Core} {v w : WiimoteId} {f : Link → Link} (other : v ≠ w) :
    (core.setLink w f).links v = core.links v :=
  Function.update_of_ne other _ _

@[simp] theorem setSlot_links (core : Core) (d : SlotId) (f : Slot → Slot) :
    (core.setSlot d f).links = core.links := rfl

@[simp] theorem setSlot_hci (core : Core) (d : SlotId) (f : Slot → Slot) :
    (core.setSlot d f).hci = core.hci := rfl

@[simp] theorem setSlot_slots (core : Core) (d : SlotId) (f : Slot → Slot) :
    (core.setSlot d f).slots = Function.update core.slots d (f (core.slots d)) := rfl

theorem disconnect_core (a : Ledger) (w : WiimoteId) (placed : Bool) :
    (a.disconnect w placed).core =
      (Ledger.release { a with core := a.core.setLink w fun link => { link with active := false } }
        (a.core.links w).inputDevice).core := by
  unfold Ledger.disconnect
  dsimp only
  split
  · exact place_core _ _ _ _
  · rfl

@[simp] theorem disconnect_links (a : Ledger) (w : WiimoteId) (placed : Bool) :
    (a.disconnect w placed).core.links =
      Function.update a.core.links w { a.core.links w with active := false } := by
  rw [disconnect_core, release_links]
  rfl

@[simp] theorem disconnect_hci (a : Ledger) (w : WiimoteId) (placed : Bool) :
    (a.disconnect w placed).core.hci = a.core.hci := by
  rw [disconnect_core, release_hci]
  rfl

theorem request_core (a : Ledger) (w : WiimoteId) (placed : Bool) :
    (a.act (.request w placed)).core =
      if placed then a.core.setLink w fun link => { link with basebandState := .inactive }
      else a.core := by
  unfold act
  dsimp only
  split
  · rfl
  · exact place_core _ _ _ _

theorem accept_core (a : Ledger) (w : WiimoteId) :
    (a.act (.accept w)).core =
      { a.core with hci := (hciConHandleVirtAlloc a.core.hci).2 }.setLink w fun link =>
        { link with
          basebandState := .complete, hciConHandle := (hciConHandleVirtAlloc a.core.hci).1 } :=
  place_core _ _ _ _

theorem credit_core (a : Ledger) (placed : Bool) :
    (a.act (.credit placed)).core = (a.core.setLink 0 resetCount).setLink 1 resetCount := by
  unfold act
  dsimp only
  split
  · exact place_core _ _ _ _
  · rfl

def Label.relink (core : Core) (v : WiimoteId) (link : Link) : Label → Link
  | .assign w d =>
      if v = w then
        { link with
          active := true
          basebandState := .requestConnection
          numCompletedAclDataPackets := 0
          inputDevice := some d }
      else link
  | .request w placed =>
      if v = w ∧ placed = true then { link with basebandState := .inactive } else link
  | .accept w =>
      if v = w then
        { link with
          basebandState := .complete, hciConHandle := (hciConHandleVirtAlloc core.hci).1 }
      else link
  | .disconnect w _ | .forget w => if v = w then { link with active := false } else link
  | .consume w =>
      if v = w then
        { link with numCompletedAclDataPackets := link.numCompletedAclDataPackets + 1 }
      else link
  | .credit _ => resetCount link
  | .remove d _ =>
      if (core.slots d).assignedWiimote = some v then
        { link with inputDevice := none, active := false }
      else link
  | _ => link

theorem setLink_apply (core : Core) (w v : WiimoteId) (f : Link → Link) :
    (core.setLink w f).links v = if v = w then f (core.links v) else core.links v := by
  by_cases same : v = w
  · subst same
    rw [setLink_same, if_pos rfl]
  · rw [setLink_other same, if_neg same]

theorem act_links (a : Ledger) (label : Label) (v : WiimoteId) :
    (a.act label).core.links v = label.relink a.core v (a.core.links v) := by
  cases label with
  | event code data placed => simp only [act, place_core, Label.relink]
  | request w placed =>
      rw [request_core]
      cases placed with
      | true => simp only [if_true, setLink_apply, Label.relink, and_true]
      | false => simp [Label.relink]
  | assign w d => simp only [act, setLink_apply, setSlot_links, Label.relink]
  | accept w =>
      rw [accept_core]
      exact setLink_apply _ w v _
  | disconnect w placed =>
      simp only [act, disconnect_links]
      exact setLink_apply a.core w v fun link => { link with active := false }
  | forget w =>
      simp only [act, Label.relink]
      split
      · rw [setLink_apply, release_links]
      · rename_i inactive
        split
        · rename_i same
          subst same
          rw [Bool.not_eq_true] at inactive
          rw [← inactive]
        · rfl
  | consume w => simp only [act, setLink_apply, Label.relink]
  | credit placed =>
      rw [credit_core, setLink_apply, setLink_apply]
      rcases zero_or_one v with rfl | rfl
      · rfl
      · rfl
  | remove d placed =>
      simp only [act, remove, Label.relink]
      rcases (a.core.slots d).assignedWiimote with _ | w
      · rfl
      · simp only [setSlot_links, disconnect_links, setLink_links, Function.update_self,
          Function.update_apply, Option.some.injEq, eq_comm (b := v)]
        split
        · rename_i same
          rw [same]
        · rfl
  | plug | tickSlots | snoop | reset | reply => rfl

def Addressed (core : Core) : Prop := ∀ w, (core.links w).bdaddr = fakeWiimoteBdaddr w

theorem fakeWiimoteBdaddr_injective : Function.Injective fakeWiimoteBdaddr := by
  intro v w same
  match v, w with
  | 0, 0 | 1, 1 => rfl
  | 0, 1 | 1, 0 => exact absurd same (by decide)

theorem act_bdaddr (a : Ledger) (label : Label) (w : WiimoteId) :
    ((a.act label).core.links w).bdaddr = (a.core.links w).bdaddr := by
  rw [act_links]
  cases label with
  | assign | request | accept | disconnect | forget | consume | remove =>
      dsimp only [Label.relink]
      split <;> rfl
  | credit =>
      dsimp only [Label.relink, resetCount]
      split <;> rfl
  | event | plug | tickSlots | snoop | reset | reply => rfl

theorem path_bdaddr {a b : Ledger} {labels : List Label} (path : a.Path labels b)
    (w : WiimoteId) : (b.core.links w).bdaddr = (a.core.links w).bdaddr := by
  refine path.invariant (fun c => (c.core.links w).bdaddr = (a.core.links w).bdaddr) rfl ?_
  intro c label holds _
  rw [act_bdaddr, holds]

theorem Run.addressed {env : Environment} {condition : World → Input → Prop} {s : World}
    (reached : Run env condition s) : Addressed s.core := by
  refine reached.unguarded_invariant (fun a => Addressed a.core) (fun _ => rfl) ?_
  intro a label holds _ w
  rw [act_bdaddr]
  exact holds w

theorem isConnected_iff {link : Link} :
    link.isConnected = true ↔ link.active = true ∧ link.basebandState = .complete := by
  simp [Link.isConnected]

def Label.quiet : Label → Bool
  | .accept _ | .consume _ | .credit _ => false
  | _ => true

theorem quiet_links {a : Ledger} {label : Label} (quiet : label.quiet = true) {v : WiimoteId}
    (connected : ((a.act label).core.links v).isConnected = true) :
    (a.act label).core.links v = a.core.links v := by
  rw [act_links] at connected ⊢
  cases label with
  | assign | disconnect | forget | remove =>
      dsimp only [Label.relink] at connected ⊢
      split
      · rename_i same
        simp [same, Link.isConnected] at connected
      · rfl
  | request w placed =>
      dsimp only [Label.relink] at connected ⊢
      split
      · rename_i same
        simp [same, Link.isConnected] at connected
      · rfl
  | event | plug | tickSlots | snoop | reset | reply => rfl
  | accept | consume | credit => cases quiet

@[simp] theorem resetCount_isConnected (link : Link) :
    (resetCount link).isConnected = link.isConnected := by
  unfold resetCount
  split <;> rfl

@[simp] theorem resetCount_hciConHandle (link : Link) :
    (resetCount link).hciConHandle = link.hciConHandle := by
  unfold resetCount
  split <;> rfl

/-- Only accepting a fake Wiimote connects it or gives it a handle. -/
theorem act_connected {a : Ledger} {label : Label} (other : ∀ w, label ≠ .accept w) {v : WiimoteId}
    (connected : ((a.act label).core.links v).isConnected = true) :
    (a.core.links v).isConnected = true ∧
      ((a.act label).core.links v).hciConHandle = (a.core.links v).hciConHandle := by
  by_cases quiet : label.quiet = true
  · have same := quiet_links quiet connected
    rw [same] at connected ⊢
    exact ⟨connected, rfl⟩
  · rw [act_links] at connected ⊢
    cases label with
    | accept w => exact absurd rfl (other w)
    | consume w =>
        dsimp only [Label.relink] at connected ⊢
        split at connected
        · rename_i same
          rw [if_pos same]
          exact ⟨connected, rfl⟩
        · rename_i different
          rw [if_neg different]
          exact ⟨connected, rfl⟩
    | credit placed =>
        dsimp only [Label.relink] at connected ⊢
        rw [resetCount_isConnected] at connected
        exact ⟨connected, resetCount_hciConHandle _⟩
    | _ => exact absurd rfl quiet

def Label.touchesHci : Label → Bool
  | .snoop _ | .accept _ | .reset | .reply _ _ _ _ _ => true
  | _ => false

theorem act_hci {a : Ledger} {label : Label} (untouched : label.touchesHci = false) :
    (a.act label).core.hci = a.core.hci := by
  cases label with
  | event code data placed => simp [act]
  | request w placed =>
      rw [request_core]
      split <;> rfl
  | disconnect w placed => exact disconnect_hci a w placed
  | forget w =>
      simp only [act]
      split
      · simp
      · rfl
  | credit placed =>
      rw [credit_core]
      rfl
  | remove d placed =>
      rcases assigned : (a.core.slots d).assignedWiimote with _ | w
      · simp [act, remove, assigned]
      · simp [act, remove, assigned]
  | assign | consume | plug | tickSlots => rfl
  | snoop | accept | reset | reply => cases untouched

instance decidablePossible (s : World) : (input : Input) → Decidable (Possible s input)
  | .handDownReply ep _ written =>
      inferInstanceAs (Decidable (0 < (s.endpoint ep).outstanding ∧
        written.length ≤ handDownMsgDataSize))
  | .hciCommand _ | .aclOut _ | .bufferRequest _ _ | .timer _ => .isTrue trivial

instance decidableAnyInput (s : World) (input : Input) : Decidable (anyInput s input) :=
  .isTrue trivial

def Platform.zero : Platform where
  buttonCount := 0
  axisCount := 0
  north := 0
  east := 0
  south := 0
  west := 0
  dpadUp := 0
  dpadDown := 0
  dpadLeft := 0
  dpadRight := 0
  start := 0
  back := 0
  leftStick := 0
  rightStick := 0
  leftShoulder := 0
  rightShoulder := 0
  leftPaddle1 := 0
  rightPaddle1 := 0
  axisLeftX := 0
  axisLeftY := 0
  axisRightX := 0
  axisRightY := 0
  touchRes := 1
  memory := fun _ => 0
  stack := fun _ => 0
  memmismatch := DiffCopy.firstDifference
  memmismatch_first := fun _ _ _ => rfl

/-- IOS refuses nothing but a send to a full queue, and memory is zero. -/
def Environment.lenient : Environment where
  heap := fun _ => some fun _ => 0
  refuseIntr := fun _ => false
  refuseBulkIn := fun _ => false
  platform := .zero
  sensorBarPositionTop := true
  gamepads := fun _ => ⟨0, fun _ => 0, 0, 0, 0, 0, 0⟩

def plainDevice (id : Nat) : EgcDevice := ⟨id, ⟨0, 0, 0⟩⟩

def writeScanEnable : Input := .hciCommand [0x1A, 0x0C, 1, hciPageScanEnable]

def readAllStoredLinkKeys : Input := .hciCommand [0x0D, 0x0C, 7, 0, 0, 0, 0, 0, 0, 1]

def acceptCon (w : WiimoteId) : Input :=
  .hciCommand ([0x09, 0x04, 7] ++ (fakeWiimoteBdaddr w).val ++ [hciRoleMaster])

def rejectCon (w : WiimoteId) : Input :=
  .hciCommand ([0x0A, 0x04, 7] ++ (fakeWiimoteBdaddr w).val ++ [0])

def emptyL2capPacket : Input := .aclOut [0x00, 0x20, 4, 0, 0, 0, 0x40, 0]

end Fakemote
