import Fakemote.HostView
import Fakemote.ControllerPairing

/-! The life of a fake connection as the injected events tell it: requested, completed for a
handle, disconnected once. It goes wrong when the host accepts a fake Wiimote that has no
connection request open, disconnects one again, or when the handles of two of them collide. -/

namespace Fakemote

open Bytes Program Ledger Transition Function

/-- What the injected events have told: the addresses with an unanswered Connection Request, the
address that each open handle was announced for, and how many Disconnection Complete events came
for a handle since its last Connection Complete. -/
structure Watch where
  requested : BdAddr → Bool
  openFor : UInt16 → Option BdAddr
  closings : UInt16 → Nat

namespace Watch

def start : Watch := ⟨fun _ => false, fun _ => none, fun _ => 0⟩

def see (watch : Watch) (data : List UInt8) : Watch :=
  match lifecycleEvent data with
  | some (.request bdaddr) => { watch with requested := update watch.requested bdaddr true }
  | some (.complete bdaddr handle) =>
      { watch with
        openFor := update watch.openFor handle (some bdaddr)
        closings := update watch.closings handle 0 }
  | some (.disconnect handle) =>
      { watch with
        openFor := update watch.openFor handle none
        closings := update watch.closings handle (watch.closings handle + 1) }
  | none => watch

def forgetOpen (watch : Watch) : Watch := { watch with openFor := fun _ => none }

def before (watch : Watch) : Input → Watch
  | .hciCommand data =>
      if commandOpcode data = some hciCmdReset then watch.forgetOpen else watch
  | _ => watch

end Watch

/-- The requests that an input answers: accept and reject answer one, a reset voids all. -/
def answersRequest (core : Core) (bdaddr : BdAddr) : Input → Bool
  | .hciCommand data =>
      (addressed hciCmdAcceptCon core data).any (fun w => (core.links w).bdaddr = bdaddr) ||
        (addressed hciCmdRejectCon core data).any (fun w => (core.links w).bdaddr = bdaddr) ||
        commandOpcode data = some hciCmdReset
  | _ => false

def injectedBetween (s t : World) : List (List UInt8) := t.events.drop s.events.length

def Watch.record (watch : Watch) (s : World) (input : Input) (t : World) : Watch :=
  let seen := (injectedBetween s t).foldl Watch.see (watch.before input)
  { seen with
    requested := fun bdaddr => seen.requested bdaddr && !answersRequest s.core bdaddr input }

structure Lively (core : Core) (watch : Watch) : Prop where
  asked : ∀ w, (core.links w).active = true → (core.links w).basebandState = .inactive →
    watch.requested (core.links w).bdaddr = true
  owned : ∀ handle bdaddr, watch.openFor handle = some bdaddr →
    ∃ w, (core.links w).bdaddr = bdaddr ∧ (core.links w).isConnected = true ∧
      (core.links w).hciConHandle = handle
  distinct : ∀ v w, (core.links v).isConnected = true → (core.links w).isConnected = true →
    (core.links v).hciConHandle = (core.links w).hciConHandle → v = w
  once : ∀ handle, watch.closings handle ≤ 1
  fresh : ∀ w, (core.links w).isConnected = true →
    watch.closings (core.links w).hciConHandle = 0

/-- The handle that would be given out next belongs to no other connected fake Wiimote. -/
def HandleFree (core : Core) (w : WiimoteId) : Prop :=
  ∀ v, v ≠ w → (core.links v).isConnected = true →
    (core.links v).hciConHandle ≠ core.hci.lastHciVirtConHandle

/-- Accepting a fake Wiimote that waits for it, with a handle that is not in use. -/
def Acceptable (core : Core) (w : WiimoteId) : Prop :=
  (core.links w).active = true ∧ (core.links w).basebandState = .inactive ∧ HandleFree core w

/-- Disconnecting a fake Wiimote that is active, or had no connection. -/
def Closable (core : Core) (w : WiimoteId) : Prop :=
  (core.links w).active = true ∨ (core.links w).basebandState ≠ .complete

def safeLife (resetting : Prop) (core : Core) : Label → Prop
  | .accept w => Acceptable core w ∧ ¬resetting
  | .disconnect w _ => Closable core w
  | .forget _ => resetting
  | _ => True

theorem see_other {watch : Watch} {data : List UInt8} (other : lifecycleEvent data = none) :
    watch.see data = watch := by
  simp [Watch.see, other]

@[simp] theorem see_conReq (watch : Watch) (bdaddr : BdAddr) :
    watch.see (conReqEvent bdaddr) =
      { watch with requested := update watch.requested bdaddr true } := by
  simp [Watch.see]

@[simp] theorem see_conCompl (watch : Watch) (bdaddr : BdAddr) (handle : UInt16) :
    watch.see (conComplEvent bdaddr handle) =
      { watch with
        openFor := update watch.openFor handle (some bdaddr)
        closings := update watch.closings handle 0 } := by
  simp [Watch.see]

@[simp] theorem see_disconCompl (watch : Watch) (handle : UInt16) :
    watch.see (disconComplEvent handle) =
      { watch with
        openFor := update watch.openFor handle none
        closings := update watch.closings handle (watch.closings handle + 1) } := by
  simp [Watch.see]

def Link.life (link : Link) : Bool × BasebandState × UInt16 × BdAddr :=
  (link.active, link.basebandState, link.hciConHandle, link.bdaddr)

theorem setLink_life {core : Core} {w : WiimoteId} {f : Link → Link}
    (same : ∀ link, (f link).life = link.life) (v : WiimoteId) :
    ((core.setLink w f).links v).life = (core.links v).life := by
  by_cases here : v = w
  · subst here
    rw [setLink_same, same]
  · rw [setLink_other here]

namespace Lively

variable {core : Core} {watch : Watch}

theorem congr (lively : Lively core watch) {after : Core}
    (same : ∀ w, (after.links w).life = (core.links w).life) : Lively after watch := by
  have fields (w : WiimoteId) : (after.links w).active = (core.links w).active ∧
      (after.links w).basebandState = (core.links w).basebandState ∧
      (after.links w).hciConHandle = (core.links w).hciConHandle ∧
      (after.links w).bdaddr = (core.links w).bdaddr := by
    simpa [Link.life] using same w
  have connected (w : WiimoteId) : (after.links w).isConnected = (core.links w).isConnected := by
    simp [Link.isConnected, fields w]
  constructor
  · intro w active inactive
    rw [(fields w).2.2.2]
    exact lively.asked w ((fields w).1 ▸ active) ((fields w).2.1 ▸ inactive)
  · intro handle bdaddr announced
    obtain ⟨w, address, connection, owns⟩ := lively.owned handle bdaddr announced
    exact ⟨w, by rw [(fields w).2.2.2, address], by rw [connected w, connection],
      by rw [(fields w).2.2.1, owns]⟩
  · intro v w one two shared
    rw [connected] at one two
    rw [(fields v).2.2.1, (fields w).2.2.1] at shared
    exact lively.distinct v w one two shared
  · exact lively.once
  · intro w connection
    rw [connected] at connection
    rw [(fields w).2.2.1]
    exact lively.fresh w connection

theorem unconnected (lively : Lively core watch) {w : WiimoteId} {f : Link → Link}
    (before : (core.links w).isConnected = false)
    (after : (f (core.links w)).isConnected = false)
    (asked : (f (core.links w)).active = true → (f (core.links w)).basebandState = .inactive →
      watch.requested (f (core.links w)).bdaddr = true) : Lively (core.setLink w f) watch := by
  have others {v : WiimoteId} (connection : ((core.setLink w f).links v).isConnected = true) :
      v ≠ w := by
    rintro rfl
    rw [setLink_same, after] at connection
    cases connection
  constructor
  · intro v active inactive
    by_cases same : v = w
    · subst same
      rw [setLink_same] at active inactive ⊢
      exact asked active inactive
    · rw [setLink_other same] at active inactive ⊢
      exact lively.asked v active inactive
  · intro handle bdaddr announced
    obtain ⟨v, address, connection, owns⟩ := lively.owned handle bdaddr announced
    have other : v ≠ w := by
      rintro rfl
      rw [before] at connection
      cases connection
    refine ⟨v, ?_⟩
    rw [setLink_other other]
    exact ⟨address, connection, owns⟩
  · intro u v one two shared
    have first := others one
    have second := others two
    rw [setLink_other first] at one
    rw [setLink_other second] at two
    rw [setLink_other first, setLink_other second] at shared
    exact lively.distinct u v one two shared
  · exact lively.once
  · intro v connection
    have other := others connection
    rw [setLink_other other] at connection ⊢
    exact lively.fresh v connection

theorem closed (lively : Lively core watch) {w : WiimoteId}
    (connection : (core.links w).isConnected = true) :
    Lively (core.setLink w fun link => { link with active := false })
      (watch.see (disconComplEvent (core.links w).hciConHandle)) := by
  rw [see_disconCompl]
  have others {v : WiimoteId} (still : ((core.setLink w fun link =>
      { link with active := false }).links v).isConnected = true) : v ≠ w := by
    rintro rfl
    rw [setLink_same] at still
    exact Bool.noConfusion still
  constructor
  · intro v active inactive
    by_cases same : v = w
    · subst same
      rw [setLink_same] at active
      cases active
    · rw [setLink_other same] at active inactive ⊢
      exact lively.asked v active inactive
  · intro handle bdaddr announced
    dsimp only at announced
    by_cases here : handle = (core.links w).hciConHandle
    · rw [here, update_self] at announced
      cases announced
    · rw [update_of_ne here] at announced
      obtain ⟨v, address, still, owns⟩ := lively.owned handle bdaddr announced
      have other : v ≠ w := by
        rintro rfl
        exact here owns.symm
      refine ⟨v, ?_⟩
      rw [setLink_other other]
      exact ⟨address, still, owns⟩
  · intro u v one two shared
    have first := others one
    have second := others two
    rw [setLink_other first] at one
    rw [setLink_other second] at two
    rw [setLink_other first, setLink_other second] at shared
    exact lively.distinct u v one two shared
  · intro handle
    dsimp only
    by_cases here : handle = (core.links w).hciConHandle
    · have none := lively.fresh w connection
      rw [here, update_self]
      omega
    · rw [update_of_ne here]
      exact lively.once handle
  · intro v still
    have other := others still
    rw [setLink_other other] at still ⊢
    have apart : (core.links v).hciConHandle ≠ (core.links w).hciConHandle := fun shared =>
      other (lively.distinct v w still connection shared)
    dsimp only
    rw [update_of_ne apart]
    exact lively.fresh v still

theorem opened (lively : Lively core watch) {w : WiimoteId} (acceptable : Acceptable core w)
    (hci : HciState) :
    Lively ({ core with hci := hci }.setLink w fun link =>
        { link with basebandState := .complete, hciConHandle := core.hci.lastHciVirtConHandle })
      (watch.see (conComplEvent (core.links w).bdaddr core.hci.lastHciVirtConHandle)) := by
  obtain ⟨active, waiting, free⟩ := acceptable
  rw [see_conCompl]
  have unconnected : (core.links w).isConnected = false := by
    simp [Link.isConnected, waiting]
  constructor
  · intro v active inactive
    by_cases same : v = w
    · subst same
      rw [setLink_same] at inactive
      cases inactive
    · rw [setLink_other same] at active inactive ⊢
      exact lively.asked v active inactive
  · intro handle bdaddr announced
    dsimp only at announced
    by_cases here : handle = core.hci.lastHciVirtConHandle
    · rw [here, update_self, Option.some.injEq] at announced
      refine ⟨w, ?_⟩
      rw [setLink_same]
      exact ⟨announced, isConnected_iff.mpr ⟨active, rfl⟩, here.symm⟩
    · rw [update_of_ne here] at announced
      obtain ⟨v, address, connection, owns⟩ := lively.owned handle bdaddr announced
      have other : v ≠ w := by
        rintro rfl
        rw [unconnected] at connection
        cases connection
      refine ⟨v, ?_⟩
      rw [setLink_other other]
      exact ⟨address, connection, owns⟩
  · intro u v one two shared
    by_cases first : u = w
    · subst first
      by_cases second : v = u
      · exact second.symm
      · rw [setLink_other second] at two shared
        rw [setLink_same] at shared
        exact absurd shared.symm (free v second two)
    · rw [setLink_other first] at one shared
      by_cases second : v = w
      · subst second
        rw [setLink_same] at shared
        exact absurd shared (free u first one)
      · rw [setLink_other second] at two shared
        exact lively.distinct u v one two shared
  · intro handle
    dsimp only
    by_cases here : handle = core.hci.lastHciVirtConHandle
    · rw [here, update_self]
      exact Nat.zero_le 1
    · rw [update_of_ne here]
      exact lively.once handle
  · intro v connection
    by_cases same : v = w
    · subst same
      rw [setLink_same]
      exact update_self _ _ _
    · rw [setLink_other same] at connection ⊢
      dsimp only
      rw [update_of_ne (free v same connection)]
      exact lively.fresh v connection

theorem requested (lively : Lively core watch) (bdaddr : BdAddr) :
    Lively core (watch.see (conReqEvent bdaddr)) := by
  rw [see_conReq]
  refine ⟨?_, lively.owned, lively.distinct, lively.once, lively.fresh⟩
  intro w active inactive
  dsimp only
  by_cases here : (core.links w).bdaddr = bdaddr
  · rw [here]
    exact update_self _ _ _
  · rw [update_of_ne here]
    exact lively.asked w active inactive

theorem forgotten (lively : Lively core watch) {w : WiimoteId}
    (unopened : ∀ h, watch.openFor h = none) :
    Lively (core.setLink w fun link => { link with active := false }) watch := by
  have others {v : WiimoteId} (still : ((core.setLink w fun link =>
      { link with active := false }).links v).isConnected = true) : v ≠ w := by
    rintro rfl
    rw [setLink_same] at still
    exact Bool.noConfusion still
  constructor
  · intro v active inactive
    by_cases same : v = w
    · subst same
      rw [setLink_same] at active
      cases active
    · rw [setLink_other same] at active inactive ⊢
      exact lively.asked v active inactive
  · intro handle bdaddr announced
    rw [unopened] at announced
    cases announced
  · intro u v one two shared
    have first := others one
    have second := others two
    rw [setLink_other first] at one
    rw [setLink_other second] at two
    rw [setLink_other first, setLink_other second] at shared
    exact lively.distinct u v one two shared
  · exact lively.once
  · intro v still
    have other := others still
    rw [setLink_other other] at still ⊢
    exact lively.fresh v still

theorem disconnected (lively : Lively core watch) {w : WiimoteId} (closable : Closable core w)
    {placed : Bool} (lost : lostBy (disconnectAttempt (core.links w) placed) = []) :
    Lively (core.setLink w fun link => { link with active := false })
      ((placedBy (disconnectAttempt (core.links w) placed)).foldl Watch.see watch) := by
  unfold disconnectAttempt at lost ⊢
  by_cases complete : (core.links w).basebandState = .complete
  · rw [if_pos complete] at lost ⊢
    cases placed with
    | false => cases lost
    | true =>
        rcases closable with active | other
        · exact lively.closed (isConnected_iff.mpr ⟨active, complete⟩)
        · exact absurd complete other
  · rw [if_neg complete]
    refine lively.unconnected ?_ rfl ?_
    · simp [Link.isConnected, complete]
    · intro active
      cases active

theorem act {a : Ledger} {label : Label} {resetting : Prop} (lively : Lively a.core watch)
    (backed : Pairing.Backed a.core.controllerOf a.core.wiimoteOf) (enabled : a.Enabled label)
    (safe : safeLife resetting a.core label) (unopened : resetting → ∀ h, watch.openFor h = none)
    (lost : lostBy (a.attempt label) = []) :
    Lively (a.act label).core ((placedBy (a.attempt label)).foldl Watch.see watch) := by
  cases label with
  | event code data placed =>
      have same : (a.act (.event code data placed)).core = a.core := place_core _ _ _ _
      rw [same]
      cases placed with
      | false => exact lively
      | true =>
          obtain ⟨rest, rfl⟩ := enabled.2 rfl
          simp only [attempt, placedBy, List.foldl_cons, List.foldl_nil]
          rw [see_other (lifecycleEvent_event enabled.1)]
          exact lively
  | request w placed =>
      cases placed with
      | false => cases lost
      | true =>
          have asked := lively.requested (a.core.links w).bdaddr
          rw [request_core, if_pos rfl]
          apply asked.unconnected
          · simp [Link.isConnected, enabled.2]
          · simp [Link.isConnected]
          · intro active inactive
            simp
  | accept w =>
      rw [accept_core]
      exact lively.opened safe.1 _
  | disconnect w placed =>
      refine (lively.disconnected safe lost).congr fun v => ?_
      simp only [Ledger.act, disconnect_links, setLink_links]
  | remove d placed =>
      rcases assigned : (a.core.slots d).assignedWiimote with _ | w
      · simp only [Ledger.act, remove, attempt, assigned, Option.bind_none, placedBy,
          List.foldl_nil]
        exact lively.congr fun v => rfl
      · have active : (a.core.links w).active = true :=
          (controllerOf_eq_some.mp (backed w d (wiimoteOf_eq_some.mpr ⟨enabled, assigned⟩))).1
        simp only [attempt, assigned, Option.bind_some] at lost ⊢
        refine (lively.disconnected (Or.inl active) lost).congr fun v => ?_
        simp only [Ledger.act, remove, assigned, setSlot_links, disconnect_links, setLink_links,
          update_self, update_idem]
        by_cases same : v = w
        · subst same
          simp [Link.life]
        · simp [update_of_ne same]
  | forget w =>
      simp only [Ledger.act]
      split
      · refine (lively.forgotten (w := w) (unopened safe)).congr fun v => ?_
        simp only [setLink_links, release_links]
      · exact lively
  | assign w d =>
      refine (lively.unconnected (w := w) (f := fun link =>
        { link with
          active := true
          basebandState := .requestConnection
          numCompletedAclDataPackets := 0
          inputDevice := some d }) ?_ ?_ ?_).congr fun v => rfl
      · simp [Link.isConnected, enabled.1]
      · simp [Link.isConnected]
      · intro active inactive
        cases inactive
  | consume w =>
      simp only [Ledger.act]
      refine lively.congr fun v => ?_
      apply setLink_life
      intro link
      rfl
  | credit placed =>
      have reset (core : Core) (w v : WiimoteId) :
          ((core.setLink w resetCount).links v).life = (core.links v).life := by
        apply setLink_life
        intro link
        unfold resetCount
        split <;> rfl
      rw [credit_core]
      have seen : (placedBy (a.attempt (.credit placed))).foldl Watch.see watch = watch := by
        simp only [attempt]
        split
        · cases placed with
          | false => rfl
          | true =>
              simp only [placedBy, List.foldl_cons, List.foldl_nil]
              exact see_other (lifecycleEvent_numComplPkts _)
        · rfl
      rw [seen]
      exact lively.congr fun v => by rw [reset, reset]
  | plug d device => exact lively.congr fun v => rfl
  | tickSlots => exact lively.congr fun v => rfl
  | snoop hci => exact lively.congr fun v => rfl
  | reset => exact lively.congr fun v => rfl
  | reply retval buffer tracked hci placed => exact lively.congr fun v => rfl

end Lively

/-- The conditions on the host: it accepts only fake Wiimotes that wait for it, rejects none that
is disconnected and had a connection, and fails at most one channel in a packet. -/
def lifeCondition (s : World) : Input → Prop
  | .hciCommand data =>
      (∀ w, addressed hciCmdAcceptCon s.core data = some w → Acceptable s.core w) ∧
      (∀ w, addressed hciCmdRejectCon s.core data = some w → Closable s.core w)
  | .aclOut data => (owner s.core (aclHandle data)).isSome → aclFailedResponses data ≤ 1
  | _ => True

def isReset (input : Input) : Prop :=
  ∃ data, input = .hciCommand data ∧ commandOpcode data = some hciCmdReset

theorem life_along {s : World} {input : Input} {labels : List Label} {b : Ledger}
    (safe : lifeCondition s input) (moves : Moves s input labels)
    (path : s.ledger.Path labels b) : s.ledger.Along (safeLife (isReset input)) labels := by
  apply moves.along path
  · intro core label free
    cases label with
    | accept | disconnect | forget => cases free
    | _ => trivial
  · rintro data w rfl found
    refine ⟨safe.1 w found, ?_⟩
    rintro ⟨_, same, opcode⟩
    cases same
    rw [addressed_opcode found] at opcode
    exact absurd (Option.some.inj opcode) (by decide)
  · rintro data w placed rfl found
    exact safe.2 w found
  · rintro data w placed rfl found
    exact Or.inl (owner_connected found).1
  · rintro data w core rfl opcode
    exact ⟨data, rfl, opcode⟩
  · intros
    trivial
  · rintro data w disconnects rfl found only length
    have few : disconnects.length ≤ 1 := by
      rw [length]
      exact safe (by rw [show owner s.core (aclHandle data) = some w from found]; rfl)
    refine ⟨trivial, ?_⟩
    match disconnects, few with
    | [], _ => trivial
    | [label], _ =>
        obtain ⟨placed, rfl⟩ := only label List.mem_cons_self
        refine ⟨Or.inl ?_, trivial⟩
        simpa [act] using (owner_connected found).1
  · intros
    trivial
  · intros
    trivial

def watchAt (watch : Watch) (base : Nat) (a : Ledger) : Watch :=
  (a.events.drop base).foldl Watch.see watch

theorem watchAt_act {watch : Watch} {base : Nat} {a : Ledger} (label : Label)
    (past : base ≤ a.events.length) :
    watchAt watch base (a.act label) =
      (placedBy (a.attempt label)).foldl Watch.see (watchAt watch base a) := by
  unfold watchAt
  rw [(act_events a label).1, List.drop_append_of_le_length past, List.foldl_append]

theorem see_unopened {watch : Watch} {data : List UInt8}
    (incomplete : ∀ bdaddr handle, lifecycleEvent data ≠ some (.complete bdaddr handle))
    (unopened : ∀ h, watch.openFor h = none) : ∀ h, (watch.see data).openFor h = none := by
  intro h
  unfold Watch.see
  split
  · exact unopened h
  · rename_i completes
    exact absurd completes (incomplete _ _)
  · rename_i handle disconnects
    dsimp only
    by_cases here : h = handle
    · rw [here, update_self]
    · rw [update_of_ne here, unopened]
  · exact unopened h

theorem unopened_act {a : Ledger} {label : Label} {watch : Watch} {resetting : Prop}
    (enabled : a.Enabled label) (safe : safeLife resetting a.core label) (reset : resetting)
    (unopened : ∀ h, watch.openFor h = none) :
    ∀ h, ((placedBy (a.attempt label)).foldl Watch.see watch).openFor h = none := by
  have incomplete : ∀ data ∈ placedBy (a.attempt label), ∀ bdaddr handle,
      lifecycleEvent data ≠ some (.complete bdaddr handle) := by
    intro data member bdaddr handle completes
    obtain ⟨w, rfl, -⟩ := complete_accept enabled member completes
    exact safe.2 reset
  rcases placed : placedBy (a.attempt label) with _ | ⟨data, rest⟩
  · exact unopened
  · rw [placed] at incomplete
    have single : rest = [] := by
      unfold placedBy at placed
      split at placed
      · exact (List.cons.inj placed).2.symm
      · cases placed
    rw [single]
    exact see_unopened (incomplete data List.mem_cons_self) unopened

structure Alive (watch : Watch) (base : Nat) (resetting : Prop) (a : Ledger) : Prop where
  past : base ≤ a.events.length
  backed : Pairing.Backed a.core.controllerOf a.core.wiimoteOf
  lively : a.lost = [] → Lively a.core (watchAt watch base a)
  unopened : resetting → ∀ h, (watchAt watch base a).openFor h = none

theorem Alive.act {watch : Watch} {base : Nat} {resetting : Prop} {a : Ledger} {label : Label}
    (alive : Alive watch base resetting a) (enabled : a.Enabled label)
    (safe : safeLife resetting a.core label) : Alive watch base resetting (a.act label) where
  past := by
    rw [(act_events a label).1, List.length_append]
    exact Nat.le_add_right_of_le alive.past
  backed := act_backed enabled alive.backed
  lively := by
    intro none
    rw [(act_events a label).2, List.append_eq_nil_iff] at none
    rw [watchAt_act label alive.past]
    exact (alive.lively none.1).act alive.backed enabled safe alive.unopened none.2
  unopened := by
    intro reset
    rw [watchAt_act label alive.past]
    exact unopened_act enabled safe reset (alive.unopened reset)

theorem answers_cases {core : Core} {bdaddr : BdAddr} {data : List UInt8}
    (answers : answersRequest core bdaddr (.hciCommand data) = true) :
    (∃ w, addressed hciCmdAcceptCon core data = some w ∧ (core.links w).bdaddr = bdaddr) ∨
    (∃ w, addressed hciCmdRejectCon core data = some w ∧ (core.links w).bdaddr = bdaddr) ∨
    commandOpcode data = some hciCmdReset := by
  simpa [answersRequest, Option.any_eq_true, or_assoc] using answers

theorem forget_active (a : Ledger) (v w : WiimoteId) :
    ((a.act (.forget v)).core.links w).active =
      if w = v then false else (a.core.links w).active := by
  rw [act_links]
  dsimp only [Label.relink]
  split <;> rfl

theorem answered_settled {s : World} {input : Input} {labels : List Label} {b : Ledger}
    {w : WiimoteId} (moves : Moves s input labels) (path : s.ledger.Path labels b)
    (addresses : Addressed s.core)
    (answers : answersRequest s.core (s.core.links w).bdaddr input = true) :
    (b.core.links w).active = false ∨ (b.core.links w).basebandState = .complete := by
  have unique {v : WiimoteId} (same : (s.core.links v).bdaddr = (s.core.links w).bdaddr) :
      v = w := by
    rw [addresses v, addresses w] at same
    exact fakeWiimoteBdaddr_injective same
  -- The opcode tells the three kinds of answers apart.
  have differs {data : List UInt8} {first second : UInt16} (one : commandOpcode data = some first)
      (two : commandOpcode data = some second) : first = second :=
    Option.some.inj (one.symm.trans two)
  cases moves with
  | accept found events =>
      rcases answers_cases answers with ⟨v, address, same⟩ | ⟨v, address, -⟩ | opcode
      · have here : v = _ := Option.some.inj (address.symm.trans found)
        obtain ⟨middle, -, -, last⟩ := path.split
        right
        rw [show b = _ from last, accept_core, ← unique same, here, setLink_same]
      · exact absurd (differs (addressed_opcode found) (addressed_opcode address)) (by decide)
      · exact absurd (differs (addressed_opcode found) opcode) (by decide)
  | reject found =>
      rcases answers_cases answers with ⟨v, address, -⟩ | ⟨v, address, same⟩ | opcode
      · exact absurd (differs (addressed_opcode found) (addressed_opcode address)) (by decide)
      · have here : v = _ := Option.some.inj (address.symm.trans found)
        left
        rw [show b = _ from path.2, ← unique same, here]
        simp [act]
      · exact absurd (differs (addressed_opcode found) opcode) (by decide)
  | disconnect opcode found events =>
      rcases answers_cases answers with ⟨v, address, -⟩ | ⟨v, address, -⟩ | reset
      · exact absurd (differs opcode (addressed_opcode address)) (by decide)
      · exact absurd (differs opcode (addressed_opcode address)) (by decide)
      · exact absurd (differs opcode reset) (by decide)
  | reset opcode =>
      left
      rw [show b = _ from path.2.2.2]
      change (((s.ledger.act (.forget 0)).act (.forget 1)).core.links w).active = false
      rw [forget_active, forget_active]
      rcases zero_or_one w with rfl | rfl
      · rfl
      · rfl
  | answer unanswering events =>
      rcases answers_cases answers with ⟨v, address, -⟩ | ⟨v, address, -⟩ | reset
      · exact absurd (address.symm.trans unanswering.accept) (by simp)
      · exact absurd (address.symm.trans unanswering.reject) (by simp)
      · exact absurd reset unanswering.reset
  | forward unanswering events =>
      rcases answers_cases answers with ⟨v, address, -⟩ | ⟨v, address, -⟩ | reset
      · exact absurd (address.symm.trans unanswering.accept) (by simp)
      · exact absurd (address.symm.trans unanswering.reject) (by simp)
      · exact absurd reset unanswering.reset
  | _ => cases answers

theorem before_lively {core : Core} {watch : Watch} (input : Input) (lively : Lively core watch) :
    Lively core (watch.before input) := by
  cases input with
  | hciCommand data =>
      simp only [Watch.before]
      split
      · refine ⟨lively.asked, ?_, lively.distinct, lively.once, lively.fresh⟩
        intro handle bdaddr announced
        cases announced
      · exact lively
  | _ => exact lively

theorem before_unopened {watch : Watch} {input : Input} (reset : isReset input) :
    ∀ h, (watch.before input).openFor h = none := by
  obtain ⟨data, rfl, opcode⟩ := reset
  intro h
  simp [Watch.before, opcode, Watch.forgetOpen]

theorem lively_step {s t : World} {input : Input} {watch : Watch} (run : step s input = .ok t)
    (safe : lifeCondition s input) (injected : t.lostEvents = [])
    (addresses : Addressed s.core)
    (backed : Pairing.Backed s.core.controllerOf s.core.wiimoteOf)
    (lively : s.lostEvents = [] → Lively s.core watch) :
    Lively t.core (watch.record s input t) := by
  obtain ⟨labels, moves, path⟩ := step_moves run
  have start : Alive (watch.before input) s.events.length (isReset input) s.ledger := by
    have none : watchAt (watch.before input) s.events.length s.ledger = watch.before input := by
      simp [watchAt, World.ledger]
    refine ⟨Nat.le_refl _, backed, ?_, ?_⟩
    · intro empty
      rw [none]
      exact before_lively input (lively empty)
    · intro reset
      rw [none]
      exact before_unopened reset
  have alive : Alive (watch.before input) s.events.length (isReset input) t.ledger :=
    path.safe_invariant _ (life_along safe moves path) start
      fun a label holds enabled safe => holds.act enabled safe
  have settled := alive.lively injected
  refine ⟨?_, settled.owned, settled.distinct, settled.once, settled.fresh⟩
  intro w active inactive
  have same : (t.core.links w).bdaddr = (s.core.links w).bdaddr := path_bdaddr path w
  have asked := settled.asked w active inactive
  simp only [Watch.record, Bool.and_eq_true, Bool.not_eq_true']
  refine ⟨asked, ?_⟩
  by_contra answers
  rw [Bool.not_eq_false, same] at answers
  rcases answered_settled moves path addresses answers with gone | complete
  · rw [show (t.core.links w).active = false from gone] at active
    cases active
  · rw [show (t.core.links w).basebandState = .complete from complete] at inactive
    cases inactive

theorem start_lively (env : Environment) : Lively (World.init env).core .start where
  asked := by
    intro w active
    cases active
  owned := by
    intro handle bdaddr announced
    cases announced
  distinct := by
    intro v w connection
    cases connection
  once := fun _ => Nat.zero_le 1
  fresh := fun _ _ => rfl

theorem Lively.lookup {core : Core} {watch : Watch} (lively : Lively core watch) {w : WiimoteId}
    {handle : UInt16} (connection : (core.links w).isConnected = true)
    (owns : (core.links w).hciConHandle = handle) :
    getFakeWiimoteForHciConHandle core handle = some w := by
  rcases found : getFakeWiimoteForHciConHandle core handle with _ | v
  · have missed := List.find?_eq_none.mp found w (by match w with | 0 | 1 => simp)
    simp [connection, owns] at missed
  · obtain ⟨connected, same⟩ := getFakeWiimote_connected found
    rw [lively.distinct v w connected connection (same.trans owns.symm)]

theorem completes_asked {s t : World} {input : Input} {watch : Watch} {bdaddr : BdAddr}
    {handle : UInt16} (run : step s input = .ok t) (safe : lifeCondition s input)
    (addresses : Addressed s.core) (lively : Lively s.core watch)
    (member : conComplEvent bdaddr handle ∈ injectedBetween s t) :
    ∃ w, (s.core.links w).bdaddr = bdaddr ∧ (s.core.links w).active = true ∧
      watch.requested bdaddr = true := by
  -- Accepting is safe here when the request was open at the start of the step.
  let safeAsked (_ : Core) (label : Label) : Prop := ∀ w, label = .accept w →
    (s.core.links w).active = true ∧ watch.requested (s.core.links w).bdaddr = true
  obtain ⟨labels, moves, path⟩ := step_moves run
  have along : s.ledger.Along safeAsked labels := by
    apply moves.along path
    · rintro core label free w rfl
      cases free
    · rintro data w rfl found v same
      cases same
      have acceptable := safe.1 w found
      exact ⟨acceptable.1, lively.asked w acceptable.1 acceptable.2.1⟩
    · rintro data w placed rfl found v same
      cases same
    · rintro data w placed rfl found v same
      cases same
    · rintro data w core rfl opcode v same
      cases same
    · rintro data core rfl opcode v same
      cases same
    · rintro data w disconnects rfl found only length
      refine Labelled.Along.always ?_ _
      rintro label member a v rfl
      rcases List.mem_cons.mp member with same | member
      · cases same
      · obtain ⟨placed, same⟩ := only _ member
        cases same
    · rintro events moves placed middle rfl timed before v same
      cases same
    · rintro retval written tracked hci placed rfl enabled v same
      cases same
  have answered := path.safe_invariant (fun a => s.events.length ≤ a.events.length ∧
    Addressed a.core ∧ ∀ data ∈ a.events.drop s.events.length, ∀ bdaddr handle,
      lifecycleEvent data = some (.complete bdaddr handle) →
      ∃ w, (s.core.links w).bdaddr = bdaddr ∧ (s.core.links w).active = true ∧
        watch.requested bdaddr = true) along
    ⟨Nat.le_refl _, addresses, by simp [World.ledger]⟩ ?_
  · exact answered.2.2 _ member _ _ (lifecycleEvent_conCompl bdaddr handle)
  · rintro a label ⟨past, addressed, seen⟩ enabled safe
    refine ⟨?_, fun w => (act_bdaddr a label w).trans (addressed w), ?_⟩
    · rw [(act_events a label).1, List.length_append]
      exact Nat.le_add_right_of_le past
    · rw [(act_events a label).1, List.drop_append_of_le_length past]
      intro data member bdaddr handle completes
      rcases List.mem_append.mp member with earlier | placed
      · exact seen data earlier bdaddr handle completes
      · obtain ⟨w, rfl, same⟩ := complete_accept enabled placed completes
        have open_ := safe w rfl
        rw [addressed w, ← addresses w] at same
        exact ⟨w, same, open_.1, same ▸ open_.2⟩

/-- In every run in which the host keeps to the conditions and every injection succeeds, a
connection completes only for a fake Wiimote that is active with an unanswered request; its handle
finds it until it is disconnected or reset; and it is disconnected once. -/
theorem fake_connections_live (env : Environment) (s : World) (watch : Watch)
    (reached : Reachable (observed step Watch.record)
      (fun state input => Possible state.1 input ∧ lifeCondition state.1 input)
      (World.init env, .start) (s, watch))
    (injected : s.lostEvents = []) :
    (∀ input t bdaddr handle, lifeCondition s input → step s input = .ok t →
      conComplEvent bdaddr handle ∈ injectedBetween s t →
      ∃ w, (s.core.links w).bdaddr = bdaddr ∧ (s.core.links w).active = true ∧
        watch.requested bdaddr = true) ∧
    (∀ handle bdaddr, watch.openFor handle = some bdaddr →
      ∃ w, (s.core.links w).bdaddr = bdaddr ∧
        getFakeWiimoteForHciConHandle s.core handle = some w) ∧
    ∀ handle, watch.closings handle ≤ 1 := by
  have invariant : Run env lifeCondition s ∧ (s.lostEvents = [] → Lively s.core watch) := by
    refine reached.invariant
      (fun state => Run env lifeCondition state.1 ∧
        (state.1.lostEvents = [] → Lively state.1.core state.2)) ?_ ?_
    · exact ⟨Reachable.start, fun _ => start_lively env⟩
    · rintro ⟨before, seen⟩ after input ⟨run, lively⟩ allowed observing
      obtain ⟨t, stepped, rfl⟩ := observed_ok.mp observing
      exact ⟨.next run allowed stepped, fun injected =>
        lively_step stepped allowed.2 injected run.addressed run.backed lively⟩
  have addresses := invariant.1.addressed
  have lively := invariant.2 injected
  refine ⟨?_, ?_, lively.once⟩
  · intro input t bdaddr handle safe run member
    exact completes_asked run safe addresses lively member
  · intro handle bdaddr announced
    obtain ⟨w, address, connection, owns⟩ := lively.owned handle bdaddr announced
    exact ⟨w, address, lively.lookup connection owns⟩

instance decidableHandleFree (core : Core) (w : WiimoteId) : Decidable (HandleFree core w) :=
  inferInstanceAs (Decidable (∀ v : WiimoteId, v ≠ w → _ → _))

instance decidableLifeCondition (s : World) :
    (input : Input) → Decidable (lifeCondition s input)
  | .hciCommand _ =>
      inferInstanceAs (Decidable ((∀ w : WiimoteId, _ → _ ∧ _ ∧ HandleFree s.core w) ∧
        ∀ _ : WiimoteId, _ → _ ∨ _))
  | .aclOut _ => inferInstanceAs (Decidable (_ → _ ≤ _))
  | .bufferRequest _ _ | .handDownReply _ _ _ | .timer _ => .isTrue trivial

/-- One fake Wiimote connects and is rejected, the other connects. -/
theorem fake_connections_live_two :
    ∃ s watch, Reachable (observed step Watch.record)
        (fun state input => Possible state.1 input ∧ lifeCondition state.1 input)
        (World.init .lenient, .start) (s, watch) ∧
      watch.openFor 1 = some (fakeWiimoteBdaddr 1) ∧ watch.closings 0 = 1 ∧
      (∃ w, (s.core.links w).bdaddr = fakeWiimoteBdaddr 1 ∧
        getFakeWiimoteForHciConHandle s.core 1 = some w) ∧
      ∀ handle, watch.closings handle ≤ 1 := by
  obtain ⟨⟨s, watch⟩, reached, check⟩ : ∃ state, Reachable (observed step Watch.record)
      (fun state input => Possible state.1 input ∧ lifeCondition state.1 input)
      (World.init .lenient, .start) state ∧
      decide (state.1.lostEvents = [] ∧ state.2.openFor 1 = some (fakeWiimoteBdaddr 1) ∧
        state.2.closings 0 = 1) = true :=
    exists_of_execute [writeScanEnable,
      .timer [.added (plainDevice 1), .added (plainDevice 2)], acceptCon 0, rejectCon 0,
      .bufferRequest .intr ⟨0, 0, 64⟩, acceptCon 1] (by decide +kernel)
  obtain ⟨injected, opened, closed⟩ := of_decide_eq_true check
  have live := fake_connections_live .lenient s watch reached injected
  exact ⟨s, watch, reached, opened, closed, live.2.1 1 _ opened, live.2.2⟩

/-- The controller is unplugged between the request and the host's answer. The connection is
completed all the same, and its handle finds no fake Wiimote. -/
theorem unplugged_wiimote_completes_connection :
    ∃ s t, Run .lenient anyInput s ∧ step s (acceptCon 0) = .ok t ∧ t.lostEvents = [] ∧
      (s.core.links 0).active = false ∧
      conComplEvent (fakeWiimoteBdaddr 0) 0 ∈ injectedBetween s t ∧
      getFakeWiimoteForHciConHandle t.core 0 = none := by
  obtain ⟨s, reached, check⟩ : ∃ s, Run .lenient anyInput s ∧
      ((step s (acceptCon 0)).toOption.any fun t => decide (t.lostEvents = [] ∧
        (s.core.links 0).active = false ∧
        conComplEvent (fakeWiimoteBdaddr 0) 0 ∈ injectedBetween s t ∧
        getFakeWiimoteForHciConHandle t.core 0 = none)) = true :=
    exists_of_execute [writeScanEnable, .timer [.added (plainDevice 1)],
      .timer [.removed 1]] (by decide +kernel)
  obtain ⟨t, run, found⟩ := exists_of_step check
  exact ⟨s, t, reached, run, of_decide_eq_true found⟩

end Fakemote
