import Fakemote.ControllerEvents
import Fakemote.Runs

/-! The virtual handles. The mask of the counter clears bit 8, so the handles repeat after 256
draws; they stay apart as long as no connection lives through so many. -/

namespace Fakemote

open Bytes Program Ledger Transition

/-- The virtual handles of the live connections: the valid entries of the map and the connected
fake Wiimotes. -/
def liveHandles (core : Core) : List UInt16 :=
  core.hci.table.live.map (·.virt) ++ (connectedLinks core).map (·.hciConHandle)

/-- The handle that the number of draws since the reset leads to. -/
def nextHandle (hci : HciState) : UInt16 := UInt16.ofNat (hci.allocated.length % 256)

/-- The next handle belongs to no live connection but that of `except`. -/
def HandleUnused (core : Core) (except : Option WiimoteId) : Prop :=
  nextHandle core.hci ∉ core.hci.table.live.map (·.virt) ∧
    ∀ v, some v ≠ except → (core.links v).isConnected = true →
      (core.links v).hciConHandle ≠ nextHandle core.hci

def connects (data : List UInt8) : Prop :=
  load8 data 0 = .ok hciEventConCompl ∧ load8 data hciEventHdrSize = .ok 0

structure Counted (hci : HciState) : Prop where
  next : hci.lastHciVirtConHandle = nextHandle hci
  drawn : hci.allocated = (List.range hci.allocated.length).map fun n => UInt16.ofNat (n % 256)

theorem mask_next : ∀ n : Fin 256, (UInt16.ofNat n + 1) &&& (0x0EFF : UInt16) =
    UInt16.ofNat ((n + 1 : Nat) % 256) := by
  decide +kernel

theorem Counted.alloc {hci : HciState} (counted : Counted hci) :
    Counted (hciConHandleVirtAlloc hci).2 where
  next := by
    have step := mask_next ⟨hci.allocated.length % 256, Nat.mod_lt _ (by decide)⟩
    simp only [hciConHandleVirtAlloc, nextHandle, List.length_append, List.length_singleton]
    rw [counted.next, nextHandle, step, Nat.mod_add_mod]
  drawn := by
    simp only [hciConHandleVirtAlloc, List.length_append, List.length_singleton,
      List.range_succ, List.map_append, List.map_cons, List.map_nil]
    rw [← counted.drawn, counted.next, nextHandle]

theorem Counted.congr {hci after : HciState} (counted : Counted hci)
    (last : after.lastHciVirtConHandle = hci.lastHciVirtConHandle)
    (allocated : after.allocated = hci.allocated) : Counted after where
  next := by rw [last, counted.next, nextHandle, nextHandle, allocated]
  drawn := by
    rw [allocated]
    exact counted.drawn

theorem Counted.act {a : Ledger} {label : Label} (counted : Counted a.core.hci)
    (enabled : a.Enabled label) : Counted (a.act label).core.hci := by
  by_cases untouched : label.touchesHci = false
  · rw [act_hci untouched]
    exact counted
  · cases label with
    | snoop hci => exact counted.congr enabled.2.2 enabled.2.1
    | accept w =>
        rw [accept_core]
        exact counted.alloc
    | reset => exact ⟨rfl, rfl⟩
    | reply retval buffer tracked hci placed =>
        simp only [Enabled] at enabled
        split at enabled
        · cases handleEvent_tracked enabled with
          | connected => exact counted.alloc.congr rfl rfl
          | disconnected => exact counted.congr rfl rfl
          | _ => exact counted
        · rw [show (a.act (.reply retval buffer tracked hci placed)).core.hci = hci from rfl,
            enabled.1]
          exact counted
    | _ => exact absurd rfl untouched

theorem Counted.bounded {hci : HciState} (counted : Counted hci) :
    ∀ handle ∈ hci.allocated, handle ≤ (0x0EFF : UInt16) := by
  intro handle member
  rw [counted.drawn] at member
  obtain ⟨n, -, rfl⟩ := List.mem_map.mp member
  have small : n % 256 < 256 := Nat.mod_lt _ (by decide)
  rw [UInt16.le_iff_toNat_le, UInt16.toNat_ofNat_of_lt' (Nat.lt_trans small (by decide))]
  change n % 256 ≤ 3839
  omega

structure Distinct (core : Core) : Prop where
  mapped : (core.hci.table.live.map (·.virt)).Nodup
  apart : ∀ w, (core.links w).isConnected = true →
    (core.links w).hciConHandle ∉ core.hci.table.live.map (·.virt)
  fakes : ∀ v w, (core.links v).isConnected = true → (core.links w).isConnected = true →
    (core.links v).hciConHandle = (core.links w).hciConHandle → v = w

theorem Distinct.nodup {core : Core} (distinct : Distinct core) : (liveHandles core).Nodup := by
  unfold liveHandles
  refine List.nodup_append.mpr ⟨distinct.mapped, ?_, ?_⟩
  · unfold connectedLinks
    by_cases first : (core.links 0).isConnected = true
    · by_cases second : (core.links 1).isConnected = true
      · have different : (core.links 0).hciConHandle ≠ (core.links 1).hciConHandle :=
          fun same => absurd (distinct.fakes 0 1 first second same) (by decide)
        simp [first, second, different]
      · simp [first, second]
    · by_cases second : (core.links 1).isConnected = true
      · simp [first, second]
      · simp [first, second]
  · rintro handle mapped _ owned rfl
    obtain ⟨link, member, rfl⟩ := List.mem_map.mp owned
    obtain ⟨listed, connected⟩ := List.mem_filter.mp member
    rcases List.mem_cons.mp listed with rfl | listed
    · exact distinct.apart 0 connected mapped
    · rcases List.mem_singleton.mp listed with rfl
      exact distinct.apart 1 connected mapped

theorem Distinct.shrink {core after : Core} (distinct : Distinct core)
    (entries : ∃ gone, (core.hci.table.live.map (·.virt)).Perm
      (gone ++ after.hci.table.live.map (·.virt)))
    (links : ∀ w, (after.links w).isConnected = true → (core.links w).isConnected = true ∧
      (after.links w).hciConHandle = (core.links w).hciConHandle) : Distinct after := by
  obtain ⟨gone, perm⟩ := entries
  constructor
  · exact (List.nodup_append.mp (perm.nodup_iff.mp distinct.mapped)).2.1
  · intro w connected member
    obtain ⟨before, same⟩ := links w connected
    apply distinct.apart w before
    rw [← same]
    exact perm.mem_iff.mpr (List.mem_append_right _ member)
  · intro v w one two shared
    obtain ⟨first, sameFirst⟩ := links v one
    obtain ⟨second, sameSecond⟩ := links w two
    exact distinct.fakes v w first second (by rw [← sameFirst, ← sameSecond, shared])

def safeDraw (core : Core) : Label → Prop
  | .accept w => (core.links w).active = true → HandleUnused core (some w)
  | .reply retval buffer _ _ _ => 0 < retval → connects buffer → HandleUnused core none
  | _ => True

theorem Distinct.accept {a : Ledger} {w : WiimoteId} (distinct : Distinct a.core)
    (counted : Counted a.core.hci)
    (unused : (a.core.links w).active = true → HandleUnused a.core (some w)) :
    Distinct (a.act (.accept w)).core := by
  have handle : (hciConHandleVirtAlloc a.core.hci).1 = nextHandle a.core.hci := counted.next
  rw [accept_core, handle]
  have becomes {v : WiimoteId} (same : v = w) {f : Link → Link}
      (keeps : (f (a.core.links w)).active = (a.core.links w).active)
      (connected : (({ a.core with hci := (hciConHandleVirtAlloc a.core.hci).2 }.setLink w f).links
        v).isConnected = true) : (a.core.links w).active = true := by
    subst same
    rw [setLink_same] at connected
    rw [← keeps]
    exact (isConnected_iff.mp connected).1
  constructor
  · exact distinct.mapped
  · intro v connected
    by_cases same : v = w
    · have active := becomes same rfl connected
      subst same
      rw [setLink_same]
      exact (unused active).1
    · rw [setLink_other same] at connected ⊢
      exact distinct.apart v connected
  · intro u v one two shared
    by_cases first : u = w
    · by_cases second : v = w
      · rw [first, second]
      · have active := becomes first rfl one
        rw [setLink_other second] at two shared
        subst first
        rw [setLink_same] at shared
        exact absurd shared.symm ((unused active).2 v (by simpa using second) two)
    · rw [setLink_other first] at one shared
      by_cases second : v = w
      · have active := becomes second rfl two
        subst second
        rw [setLink_same] at shared
        exact absurd shared ((unused active).2 u (by simpa using first) one)
      · rw [setLink_other second] at two shared
        exact distinct.fakes u v one two shared

theorem Distinct.map {core : Core} {hci : HciState} {phys : UInt16} (distinct : Distinct core)
    (unused : HandleUnused core none) {table : ConHandleMap}
    (mapped : core.hci.table.hciVirtConHandleMap phys (nextHandle core.hci) = some table)
    (same : hci.table = table) : Distinct { core with hci := hci } := by
  have perm := (ConHandleMap.hciVirtConHandleMap_live mapped).map (·.virt)
  rw [← same] at perm
  constructor
  · exact perm.nodup_iff.mpr (List.nodup_cons.mpr ⟨unused.1, distinct.mapped⟩)
  · intro w connected member
    rcases List.mem_cons.mp (perm.mem_iff.mp member) with next | earlier
    · exact unused.2 w (by simp) connected next
    · exact distinct.apart w connected earlier
  · exact distinct.fakes

theorem Distinct.reply {a : Ledger} {retval : Int} {buffer tracked : List UInt8} {hci : HciState}
    {placed : Bool} (distinct : Distinct a.core) (counted : Counted a.core.hci)
    (enabled : a.Enabled (.reply retval buffer tracked hci placed))
    (safe : safeDraw a.core (.reply retval buffer tracked hci placed)) :
    Distinct (a.act (.reply retval buffer tracked hci placed)).core := by
  have still (same : hci = a.core.hci) :
      Distinct (a.act (.reply retval buffer tracked hci placed)).core := by
    subst same
    exact distinct
  simp only [Enabled] at enabled
  split at enabled
  · rename_i positive
    cases handleEvent_tracked enabled with
    | connected event status physAt mapped stored =>
        rw [show (hciConHandleVirtAlloc a.core.hci).1 = nextHandle a.core.hci from counted.next]
          at mapped
        exact distinct.map (safe positive ⟨event, status⟩) mapped rfl
    | disconnected event status physAt found unmapped stored =>
        obtain ⟨e, -, perm⟩ := ConHandleMap.hciVirtConHandleUnmapVirt_live unmapped
        exact distinct.shrink ⟨[e.virt], perm.map (·.virt)⟩ fun w connected => ⟨connected, rfl⟩
    | _ => exact still rfl
  · exact still enabled.1

theorem Distinct.act {a : Ledger} {label : Label} (distinct : Distinct a.core)
    (counted : Counted a.core.hci) (enabled : a.Enabled label) (safe : safeDraw a.core label) :
    Distinct (a.act label).core := by
  by_cases accepts : ∃ w, label = .accept w
  · obtain ⟨w, rfl⟩ := accepts
    exact distinct.accept counted safe
  · have links (w : WiimoteId) := act_connected (a := a) (v := w) fun v same => accepts ⟨v, same⟩
    by_cases untouched : label.touchesHci = false
    · refine distinct.shrink ⟨[], ?_⟩ links
      rw [act_hci untouched]
      exact .refl _
    · cases label with
      | snoop hci =>
          refine distinct.shrink ⟨[], ?_⟩ links
          rw [show (a.act (.snoop hci)).core.hci.table = a.core.hci.table from enabled.1]
          exact .refl _
      | reset =>
          refine distinct.shrink ⟨a.core.hci.table.live.map (·.virt), ?_⟩ links
          simp [Ledger.act, hciStateReset]
      | reply retval buffer tracked hci placed =>
          exact distinct.reply counted enabled safe
      | accept w => exact absurd ⟨w, rfl⟩ accepts
      | _ => exact absurd rfl untouched

/-- Handles are drawn for connections only when the next one is not in use. -/
def drawCondition (s : World) : Input → Prop
  | .hciCommand data => ∀ w, addressed hciCmdAcceptCon s.core data = some w →
      (s.core.links w).active = true → HandleUnused s.core (some w)
  | .handDownReply .intr retval written =>
      0 < retval → connects (s.intr.filled written) → HandleUnused s.core none
  | _ => True

theorem draw_along {s : World} {input : Input} {labels : List Label} {b : Ledger}
    (safe : drawCondition s input) (moves : Moves s input labels)
    (path : s.ledger.Path labels b) : s.ledger.Along safeDraw labels := by
  apply moves.along path
  · intro core label free
    cases label with
    | accept | reply => cases free
    | _ => trivial
  · rintro data w rfl found
    exact safe w found
  · intros
    trivial
  · intros
    trivial
  · intros
    trivial
  · intros
    trivial
  · rintro data w disconnects rfl found only length
    refine Labelled.Along.always ?_ _
    intro label member a
    rcases List.mem_cons.mp member with rfl | member
    · trivial
    · obtain ⟨placed, rfl⟩ := only label member
      trivial
  · intros
    trivial
  · rintro retval written tracked hci placed rfl enabled
    exact safe

theorem init_distinct (env : Environment) : Distinct (World.init env).core where
  mapped := by simp [World.init, HciState.init]
  apart := by
    intro w connected
    cases connected
  fakes := by
    intro v w connected
    cases connected

theorem Run.counted {env : Environment} {condition : World → Input → Prop} {s : World}
    (reached : Run env condition s) : Counted s.core.hci :=
  reached.unguarded_invariant (fun a => Counted a.core.hci) ⟨rfl, rfl⟩
    fun _ _ holds enabled => holds.act enabled

theorem Run.distinct {env : Environment} {s : World} (reached : Run env drawCondition s) :
    Counted s.core.hci ∧ Distinct s.core :=
  reached.ledger_invariant (fun a => Counted a.core.hci ∧ Distinct a.core)
    ⟨⟨rfl, rfl⟩, init_distinct env⟩
    (fun _ _ _ _ _ safe moves path => draw_along safe moves path)
    fun _ _ holds enabled safe =>
      ⟨holds.1.act enabled, holds.2.act holds.1 enabled safe⟩

/-- In every run in which no handle is drawn that a live connection still has, live connections
have different handles; the handles drawn since the reset are 0 to 255 over and over. -/
theorem live_handles_distinct (env : Environment) (s : World)
    (reached : Run env drawCondition s) :
    (liveHandles s.core).Nodup ∧
    (∀ handle ∈ s.core.hci.allocated, handle ≤ (0x0EFF : UInt16)) ∧
    s.core.hci.allocated =
      (List.range s.core.hci.allocated.length).map fun n => UInt16.ofNat (n % 256) :=
  ⟨reached.distinct.2.nodup, reached.distinct.1.bounded, reached.distinct.1.drawn⟩

instance decidableHandleUnused (core : Core) (except : Option WiimoteId) :
    Decidable (HandleUnused core except) :=
  inferInstanceAs (Decidable (_ ∉ _ ∧ ∀ v : WiimoteId, some v ≠ except → _ → _ ≠ _))

instance decidableDrawCondition (s : World) :
    (input : Input) → Decidable (drawCondition s input)
  | .hciCommand _ =>
      inferInstanceAs (Decidable (∀ w : WiimoteId, _ → _ → HandleUnused s.core (some w)))
  | .handDownReply .intr _ _ =>
      inferInstanceAs (Decidable (_ → _ ∧ _ → HandleUnused s.core none))
  | .handDownReply .bulkIn _ _ | .aclOut _ | .bufferRequest _ _ | .timer _ => .isTrue trivial

theorem live_handles_distinct_two_accepted :
    ∃ s, Run .lenient drawCondition s ∧ liveHandles s.core = [0, 1] ∧
      (liveHandles s.core).Nodup := by
  obtain ⟨s, reached, handles⟩ : ∃ s, Run .lenient drawCondition s ∧
      decide (liveHandles s.core = [0, 1]) = true :=
    exists_of_execute [writeScanEnable,
      .timer [.added (plainDevice 1), .added (plainDevice 2)], acceptCon 0, acceptCon 1]
      (by decide +kernel)
  exact ⟨s, reached, of_decide_eq_true handles, (live_handles_distinct .lenient s reached).1⟩

structure Idle (e : Endpoint) : Prop where
  pending : e.pendingQ = []
  ready : e.readyQ = []
  free : e.handDownPending = false

theorem Idle.request {e : Endpoint} (idle : Idle e) (room : 0 < e.pendingCap)
    (accepts : e.refuse e.sends = false) :
    ∃ t, e.receiveMessage ⟨0, 0, 64⟩ = .ok (t, some .handDown) ∧ t.pendingQ = [⟨0, 0, 64⟩] ∧
      t.readyQ = [] ∧ 0 < t.outstanding := by
  refine ⟨{ e with
    requests := e.requests ++ [⟨0, 0, 64⟩]
    pendingQ := [⟨0, 0, 64⟩]
    sends := e.sends + 1
    handDown := { e.handDown with wLength := 64, fd := 0 }
    handDownPending := true
    outstanding := e.outstanding + 1 }, ?_, rfl, idle.ready, Nat.succ_pos _⟩
  simp [Endpoint.receiveMessage, Endpoint.handleBulkIntrPendingMessage, Endpoint.sendPending,
    Endpoint.configureHandDownMsg, idle.pending, idle.ready, idle.free, room, accepts,
    handDownMsgDataSize]

theorem deliver {s : World} {hci : HciState} (written : List UInt8)
    (reached : Run .lenient anyInput s) (idle : Idle s.intr)
    (short : written.length ≤ handDownMsgDataSize)
    (run : ∀ rest, ∃ tracked,
      hciStateHandleHciEventFromController s.core.hci (written ++ rest) = .ok (hci, tracked)) :
    ∃ t, Run .lenient anyInput t ∧ t.core = { s.core with hci := hci } ∧ Idle t.intr := by
  have limits := reached.limits .intr
  simp only [Endpoint.limits, World.endpoint, World.init, Environment.lenient, Endpoint.init,
    Prod.mk.injEq] at limits
  obtain ⟨-, room, refuses⟩ := limits
  obtain ⟨e, received, pending, ready, lent⟩ := idle.request (by omega) (by rw [refuses])
  have asked : step s (.bufferRequest .intr ⟨0, 0, 64⟩) = .ok { s with intr := e } := by
    simp only [step, handleInput, handleBufferRequest, bind_run (get_run s), World.endpoint,
      received, bind_run (lift_run_ok _ s)]
    rfl
  have requested : Possible s (.bufferRequest .intr ⟨0, 0, 64⟩) := trivial
  have asking : Run .lenient anyInput { s with intr := e } :=
    Reachable.next reached ⟨requested, trivial⟩ asked
  obtain ⟨tracked, handled⟩ := run (e.handDown.data.drop written.length)
  have possible : Possible { s with intr := e } (.handDownReply .intr 1 written) := ⟨lent, short⟩
  refine ⟨{ s with core := { s.core with hci := hci }, intr := (e.resourceReply 1 tracked).1 },
    Reachable.next asking ⟨possible, trivial⟩ ?_, rfl, ?_⟩
  · have tracking : trackReply .intr 1 (written ++ e.handDown.data.drop written.length)
        { s with intr := e } =
        .ok (tracked, { s with core := { s.core with hci := hci }, intr := e }) := by
      simp only [trackReply, Int.reduceLT, if_true, bind_run (get_run _), handled,
        bind_run (lift_run_ok _ _)]
      rfl
    have replying : oh1ResourceReply .intr 1 written { s with intr := e } = _ :=
      (bind_run (get_run _)).trans (bind_run tracking)
    simp only [step, handleInput, replying]
    rfl
  · simp only [Endpoint.resourceReply, Endpoint.handleBulkIntrReadyMessage, pending]
    exact ⟨rfl, ready, rfl⟩

/-- A connection that has lasted since the first of `count` draws, with nobody else connected. -/
structure Lasting (count : Nat) (s : World) : Prop where
  reached : Run .lenient anyInput s
  connected : (s.core.links 0).isConnected = true
  handle : (s.core.links 0).hciConHandle = 0
  drawn : s.core.hci.allocated.length = count
  alone : s.core.hci.table.live = []
  idle : Idle s.intr

def conComplReport : List UInt8 := [hciEventConCompl, 11, 0, 1, 0]

def disconComplReport : List UInt8 := [hciEventDisconCompl, 4, 0, 1, 0]

theorem Lasting.connect {count : Nat} {s : World} (lasting : Lasting count s) :
    ∃ t, Run .lenient anyInput t ∧ t.core.links = s.core.links ∧
      t.core.hci.allocated.length = count + 1 ∧
      t.core.hci.table.live = [⟨true, nextHandle s.core.hci, 1⟩] ∧ Idle t.intr := by
  have counted := lasting.reached.counted
  have room : s.core.hci.table.live.length < maxHciConnections := by
    simp [lasting.alone, maxHciConnections]
  obtain ⟨table, mapped⟩ := ConHandleMap.hciVirtConHandleMap_some room 1
    (hciConHandleVirtAlloc s.core.hci).1
  obtain ⟨t, reached, core, idle⟩ := deliver conComplReport lasting.reached
    lasting.idle (by decide) fun rest => by
      obtain ⟨out, stored⟩ := Bytes.store16_some (conComplReport ++ rest) (hciEventHdrSize + 1)
        (htole16 (hciConHandleVirtAlloc s.core.hci).1) (by simp [conComplReport, hciEventHdrSize])
      exact ⟨out, conCompl_runs rfl rfl rfl mapped (store16_ok.mpr stored)⟩
  have live := ConHandleMap.hciVirtConHandleMap_live mapped
  rw [lasting.alone, List.perm_singleton,
    show (hciConHandleVirtAlloc s.core.hci).1 = nextHandle s.core.hci from counted.next] at live
  refine ⟨t, reached, by rw [core], ?_, by rw [core, live], idle⟩
  rw [core]
  simp [hciConHandleVirtAlloc, lasting.drawn]

theorem Lasting.cycle {count : Nat} {s : World} (lasting : Lasting count s) :
    ∃ t, Lasting (count + 1) t := by
  obtain ⟨t, reached, links, drawn, live, idle⟩ := lasting.connect
  have member : ⟨true, nextHandle s.core.hci, 1⟩ ∈ t.core.hci.table.live := by
    rw [live]
    exact List.mem_singleton_self _
  obtain ⟨virt, found⟩ := ConHandleMap.hciVirtConHandleGetVirt_some member
  obtain ⟨e, mapped, -, same⟩ := ConHandleMap.hciVirtConHandleGetVirt_live found
  rw [live, List.mem_singleton] at mapped
  rw [mapped] at same
  subst same
  obtain ⟨table, unmapped⟩ := ConHandleMap.hciVirtConHandleUnmapVirt_some member
  obtain ⟨u, after, core, idleAfter⟩ := deliver disconComplReport reached idle
    (by decide) fun rest => by
      obtain ⟨out, stored⟩ := Bytes.store16_some (disconComplReport ++ rest) (hciEventHdrSize + 1)
        (htole16 (nextHandle s.core.hci)) (by simp [disconComplReport, hciEventHdrSize])
      exact ⟨out, disconCompl_runs rfl rfl rfl found unmapped (store16_ok.mpr stored)⟩
  obtain ⟨gone, -, perm⟩ := ConHandleMap.hciVirtConHandleUnmapVirt_live unmapped
  have empty : table.live = [] := by
    have size := perm.length_eq
    rw [live] at size
    exact List.eq_nil_of_length_eq_zero (by simpa using size)
  refine ⟨u, after, ?_, ?_, ?_, ?_, idleAfter⟩
  · rw [core]
    simpa [links] using lasting.connected
  · rw [core]
    simpa [links] using lasting.handle
  · rw [core]
    exact drawn
  · rw [core]
    exact empty

theorem exists_lasting (more : Nat) : ∃ s, Lasting (1 + more) s := by
  induction more with
  | zero =>
      obtain ⟨s, reached, check⟩ : ∃ s, Run .lenient anyInput s ∧
          decide ((s.core.links 0).isConnected = true ∧ (s.core.links 0).hciConHandle = 0 ∧
            s.core.hci.allocated.length = 1 ∧ s.core.hci.table.live = [] ∧
            s.intr.pendingQ = [] ∧ s.intr.readyQ = [] ∧ s.intr.handDownPending = false) = true :=
        exists_of_execute ([writeScanEnable, .timer [.added (plainDevice 1)],
          acceptCon 0] ++ List.replicate 4 (.bufferRequest .intr ⟨0, 0, 64⟩)) (by decide +kernel)
      obtain ⟨connected, handle, drawn, alone, pending, ready, free⟩ := of_decide_eq_true check
      exact ⟨s, reached, connected, handle, drawn, alone, pending, ready, free⟩
  | succ more ih =>
      obtain ⟨s, lasting⟩ := ih
      exact lasting.cycle

/-- While a fake Wiimote stays connected a device connects 256 times. The last time it is given
the handle of the fake Wiimote, after 257 of the 3840 handles. -/
theorem handle_drawn_again_while_live :
    ∃ s, Run .lenient anyInput s ∧ s.core.hci.allocated.length ≤ 0x0F00 ∧
      ¬(liveHandles s.core).Nodup := by
  obtain ⟨s, lasting⟩ := exists_lasting 255
  obtain ⟨t, reached, links, drawn, live, -⟩ := lasting.connect
  refine ⟨t, reached, by rw [drawn]; decide, ?_⟩
  have next : nextHandle s.core.hci = 0 := by
    rw [nextHandle, lasting.drawn]
    rfl
  have own : (0 : UInt16) ∈ (connectedLinks t.core).map (·.hciConHandle) := by
    refine List.mem_map.mpr ⟨s.core.links 0, List.mem_filter.mpr ⟨?_, lasting.connected⟩,
      lasting.handle⟩
    simp [links]
  intro distinct
  rw [liveHandles, live, List.map_singleton, next] at distinct
  exact (List.nodup_cons.mp distinct).1 own

end Fakemote
