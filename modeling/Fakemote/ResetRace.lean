import Fakemote.LiveConnections

/-! The controller on the other side of the hand-down buffers. Its packets are on their way while
the host resets: the map is cleared when the command is sent and not when it is executed. -/

namespace Fakemote

open Bytes Program Ledger Transition

def virtLookup : Fault := .assertion .conHandleGetVirt

def handleAt (data : List UInt8) (offset : Nat) : Option UInt16 :=
  match load16 data offset with
  | .ok word => some (le16toh word)
  | .error _ => none

/-- The physical handles that the handler of an event looks up. -/
def eventLookups (data : List UInt8) : List UInt16 :=
  match load8 data 0 with
  | .error _ => []
  | .ok code =>
      if code = hciEventDisconCompl then (lifecycleHandle hciEventDisconCompl data).toList
      else if code = hciEventNumComplPkts then
        match load8 data hciEventHdrSize with
        | .ok count =>
            (List.range count.toNat).filterMap fun i => handleAt data (hciEventHdrSize + 1 + 4 * i)
        | .error _ => []
      else
        match translatedEvents.lookup code with
        | some offset => (handleAt data (hciEventHdrSize + offset)).toList
        | none => []

def lookups : EndpointId → List UInt8 → List UInt16
  | .intr, data => eventLookups data
  | .bulkIn, data => (aclHandle data).toList

def FindsHandles {α : Type} (x : Except Fault α) : Prop := x ≠ .error virtLookup

namespace FindsHandles

variable {α β : Type}

theorem ok (a : α) : FindsHandles (.ok a : Except Fault α) := by
  intro failed
  cases failed

theorem bind {x : Except Fault α} {f : α → Except Fault β} (first : FindsHandles x)
    (rest : ∀ a, x = .ok a → FindsHandles (f a)) : FindsHandles (x >>= f) := by
  cases x with
  | error fault =>
      intro failed
      exact first (congrArg Except.error (Except.error.inj failed))
  | ok a => exact rest a rfl

theorem ite {condition : Prop} [Decidable condition] {x y : Except Fault α}
    (yes : condition → FindsHandles x) (no : ¬condition → FindsHandles y) :
    FindsHandles (if condition then x else y) := by
  split
  · rename_i holds
    exact yes holds
  · rename_i fails
    exact no fails

theorem orFault {fault : Fault} {x : Option α} (other : fault ≠ virtLookup) :
    FindsHandles (orFault fault x) := by
  intro failed
  exact other (orFault_error failed).symm

theorem load8 (buffer : List UInt8) (offset : Nat) : FindsHandles (load8 buffer offset) :=
  .orFault (by decide)

theorem load16 (buffer : List UInt8) (offset : Nat) : FindsHandles (load16 buffer offset) :=
  .orFault (by decide)

theorem store16 (buffer : List UInt8) (offset : Nat) (word : UInt16) :
    FindsHandles (store16 buffer offset word) :=
  .orFault (by decide)

theorem getVirt {table : ConHandleMap} {phys : UInt16}
    (found : table.hciVirtConHandleGetVirt phys ≠ none) :
    FindsHandles (Fakemote.orFault virtLookup (table.hciVirtConHandleGetVirt phys)) := by
  rcases entry : table.hciVirtConHandleGetVirt phys with _ | virt
  · exact absurd entry found
  · exact .ok virt

end FindsHandles

section Handlers

variable {table : ConHandleMap} {hci : HciState} {data : List UInt8}

theorem translateToVirt_finds {offset : Nat}
    (found : ∀ phys, handleAt data offset = some phys → table.hciVirtConHandleGetVirt phys ≠ none) :
    FindsHandles (translateToVirt table data offset) := by
  refine .bind (.load16 _ _) fun word loaded => ?_
  have handle : handleAt data offset = some (le16toh word) := by simp only [handleAt, loaded]
  exact .bind (.getVirt (found _ handle)) fun virt _ => .store16 _ _ _

theorem translateNumComplPkts_finds (count : Nat) : ∀ {offset : Nat} {data : List UInt8},
    (∀ i < count, ∀ phys, handleAt data (offset + 4 * i) = some phys →
      table.hciVirtConHandleGetVirt phys ≠ none) →
    FindsHandles (translateNumComplPkts table count offset data) := by
  induction count with
  | zero => exact fun _ => .ok _
  | succ count ih =>
      intro offset data found
      refine .bind (translateToVirt_finds (found 0 (Nat.succ_pos count))) ?_
      intro first translated
      obtain ⟨_, virt, -, -, stored⟩ := translateToVirt_ok.mp translated
      apply ih
      intro i bound phys handle
      have position : offset + 4 * (i + 1) = offset + 4 + 4 * i := by omega
      apply found (i + 1) (by omega)
      -- The stored word is before this entry.
      have same : load16 first (offset + 4 + 4 * i) = load16 data (offset + 4 + 4 * i) := by
        unfold load16
        rw [Bytes.load16_store16_other (store16_ok.mp stored) (Or.inr (by omega))]
      rw [position, handleAt, ← same]
      exact handle

theorem handleConCompl_finds : FindsHandles (handleConCompl hci data) := by
  refine .bind (.load8 _ _) fun status _ => .ite (fun _ => ?_) fun _ => .ok _
  exact .bind (.load16 _ _) fun phys _ => .bind (.orFault (by decide)) fun table _ =>
    .bind (.store16 _ _ _) fun out _ => .ok _

theorem handleDisconCompl_finds (event : load8 data 0 = .ok hciEventDisconCompl)
    (found : ∀ phys, lifecycleHandle hciEventDisconCompl data = some phys →
      hci.table.hciVirtConHandleGetVirt phys ≠ none) :
    FindsHandles (handleDisconCompl hci data) := by
  refine .bind (.load8 _ _) fun status statusAt => .ite (fun success => ?_) fun _ => .ok _
  refine .bind (.load16 _ _) fun phys physAt => ?_
  have handle : lifecycleHandle hciEventDisconCompl data = some (le16toh phys) := by
    rw [success] at statusAt
    simp only [lifecycleHandle, physAt]
    exact if_pos ⟨event, statusAt⟩
  exact .bind (.getVirt (found _ handle)) fun virt _ => .bind (.orFault (by decide)) fun table _ =>
    .bind (.store16 _ _ _) fun out _ => .ok _

theorem handleCommandCompl_finds : FindsHandles (handleCommandCompl hci data) := by
  refine .bind (.load16 _ _) fun opcode _ => .ite (fun _ => ?_) fun _ => .ok _
  refine .bind (.load16 _ _) fun maxKeys _ => .bind (.load16 _ _) fun keysRead _ =>
    .ite (fun _ => ?_) fun _ => .ok _
  exact .bind (.store16 _ _ _) fun first _ => .bind (.store16 _ _ _) fun second _ => .ok _

theorem handleEvent_finds
    (found : ∀ phys ∈ eventLookups data, hci.table.hciVirtConHandleGetVirt phys ≠ none) :
    FindsHandles (hciStateHandleHciEventFromController hci data) := by
  refine .bind (.load8 _ _) fun code event => ?_
  unfold eventLookups at found
  rw [event] at found
  dsimp only at found
  refine .ite (fun _ => handleConCompl_finds) fun _ => .ite (fun disconnects => ?_) fun other => ?_
  · rw [if_pos disconnects] at found
    rw [disconnects] at event
    refine handleDisconCompl_finds event fun phys handle => found phys ?_
    rw [handle]
    exact List.mem_singleton_self phys
  rw [if_neg other] at found
  refine .ite (fun _ => handleCommandCompl_finds) fun _ => .ite (fun packets => ?_) fun single => ?_
  · rw [if_pos packets] at found
    refine .bind (.load8 _ _) fun count countAt => ?_
    rw [countAt] at found
    refine .bind (translateNumComplPkts_finds _ fun i bound phys handle => found phys ?_)
      fun out _ => .ok _
    exact List.mem_filterMap.mpr ⟨i, List.mem_range.mpr bound, handle⟩
  · rw [if_neg single] at found
    rcases listed : translatedEvents.lookup code with _ | offset
    · exact .ok _
    · rw [listed] at found
      dsimp only at found ⊢
      refine .bind (translateToVirt_finds fun phys handle => found phys ?_) fun out _ => .ok _
      rw [handle]
      exact List.mem_singleton_self phys

theorem aclIn_finds
    (found : ∀ phys, aclHandle data = some phys → hci.table.hciVirtConHandleGetVirt phys ≠ none) :
    FindsHandles (hciStateHandleAclDataInResponseFromController hci data) := by
  refine .bind (.load16 _ _) fun word loaded => ?_
  have handle : aclHandle data = some (hciConHandle (le16toh word)) := by
    simp only [aclHandle, loaded]
  exact .bind (.getVirt (found _ handle)) fun virt _ => .store16 _ _ _

end Handlers

theorem handDownReply_finds {s : World} {ep : EndpointId} {retval : Int} {written : List UInt8}
    (found : ∀ phys ∈ lookups ep ((s.endpoint ep).filled written),
      s.core.hci.table.hciVirtConHandleGetVirt phys ≠ none) :
    FindsHandles (step s (.handDownReply ep retval written)) := by
  intro failed
  unfold step at failed
  split at failed
  · cases failed
  · rename_i fault run
    cases failed
    rcases bind_error.mp run with fault | ⟨_, _, got, run⟩
    · cases fault
    cases got
    rcases bind_error.mp run with fault | ⟨_, _, _, last⟩
    · unfold trackReply at fault
      by_cases positive : 0 < retval
      · rw [if_pos positive] at fault
        rcases bind_error.mp fault with fault | ⟨_, _, got, fault⟩
        · cases fault
        cases got
        cases ep with
        | intr =>
            rcases bind_error.mp fault with fault | ⟨_, _, _, last⟩
            · exact handleEvent_finds found (lift_error.mp fault)
            · cases last
        | bulkIn =>
            refine aclIn_finds (fun phys handle => found phys ?_) (lift_error.mp fault)
            exact Option.mem_toList.mpr handle
      · rw [if_neg positive] at fault
        cases fault
    · cases ep <;> cases last

/-- What is on the other side: `live` are the connections of the controller, `resets` the resets it
has not executed yet, and `flight` the packets it has sent that have not come back in a hand-down
buffer. `reported` are the connections whose Connection Complete event came back after the last
reset was issued, less those whose Disconnection Complete event did; a reset turns them into
`lost`, until the controller reports one anew. -/
structure Bus where
  live : List UInt16
  resets : Nat
  flight : EndpointId → List (List UInt8)
  reported : List UInt16
  lost : List UInt16

inductive Action
  | module (input : Input)
  | emit (ep : EndpointId) (packet : List UInt8)
  | executeReset
  | deliver (ep : EndpointId) (retval : Int)

def forget (lost : List UInt16) (packet : List UInt8) : List UInt16 :=
  match lifecycleHandle hciEventConCompl packet with
  | some phys => lost.filter (· ≠ phys)
  | none => lost

namespace Bus

def idle : Bus := ⟨[], 0, fun _ => [], [], []⟩

def command (bus : Bus) : Input → Bus
  | .hciCommand data =>
      if commandOpcode data = some hciCmdReset then
        { bus with resets := bus.resets + 1, reported := [], lost := bus.reported ++ bus.lost }
      else bus
  | _ => bus

def emit (bus : Bus) (ep : EndpointId) (packet : List UInt8) : Bus :=
  { bus with
    flight := Function.update bus.flight ep (bus.flight ep ++ [packet])
    live := match ep with
      | .intr => followEvent bus.live packet
      | .bulkIn => bus.live }

def deliver (bus : Bus) (ep : EndpointId) (packet : List UInt8) (rest : List (List UInt8)) : Bus :=
  let taken : Bus := { bus with flight := Function.update bus.flight ep rest }
  match ep with
  | .intr =>
      { taken with
        reported := followEvent bus.reported packet
        lost := forget bus.lost packet }
  | .bulkIn => taken

end Bus

def busStep (state : World × Bus) : Action → Except Fault (World × Bus)
  | .module input =>
      match step state.1 input with
      | .ok t => .ok (t, state.2.command input)
      | .error fault => .error fault
  | .emit ep packet => .ok (state.1, state.2.emit ep packet)
  | .executeReset => .ok (state.1, { state.2 with live := [], resets := state.2.resets - 1 })
  | .deliver ep retval =>
      match state.2.flight ep with
      | [] => .ok state
      | packet :: rest =>
          match step state.1 (.handDownReply ep retval packet) with
          | .ok t => .ok (t, state.2.deliver ep packet rest)
          | .error fault => .error fault

/-- A packet that says what it is about, whatever follows it in the buffer. -/
def Whole (ep : EndpointId) (packet : List UInt8) : Prop :=
  ∀ rest, lookups ep (packet ++ rest) = lookups ep packet ∧
    ∀ code, lifecycleHandle code (packet ++ rest) = lifecycleHandle code packet

def Input.delivers : Input → Prop
  | .handDownReply _ retval _ => 0 < retval
  | _ => False

/-- The controller sends packets that are about its own live connections, and opens connections
under handles that are not in use. It executes the resets that were issued. -/
def Sends (state : World × Bus) : Action → Prop
  | .module input => Possible state.1 input ∧ ¬input.delivers
  | .emit ep packet => Whole ep packet ∧ (∀ phys ∈ lookups ep packet, phys ∈ state.2.live) ∧
      (ep = .intr → ∀ phys, lifecycleHandle hciEventConCompl packet = some phys →
        phys ∉ state.2.live)
  | .executeReset => 0 < state.2.resets
  | .deliver ep retval => 0 < retval ∧ ∃ packet ∈ (state.2.flight ep).head?,
      Possible state.1 (.handDownReply ep retval packet)

/-- No event about a lost connection comes back, and no data of a connection that is not reported.
No virtual handle is drawn that a live connection has. -/
def nothingLost (state : World × Bus) : Action → Prop
  | .deliver .intr _ => ∀ packet ∈ (state.2.flight .intr).head?,
      (∀ phys ∈ lookups .intr packet, phys ∉ state.2.lost) ∧
      (lifecycleHandle hciEventConCompl packet ≠ none →
        (hciConHandleVirtAlloc state.1.core.hci).1 ∉ state.1.core.hci.table.live.map (·.virt))
  | .deliver .bulkIn _ => ∀ packet ∈ (state.2.flight .bulkIn).head?,
      ∀ phys ∈ lookups .bulkIn packet, phys ∈ state.2.reported
  | _ => True

/-- Events that a controller with the connections `before` has sent, having those of `live` now;
it may have executed resets meanwhile. -/
inductive Emitted : List UInt16 → List (List UInt8) → List UInt16 → Prop
  | done {live : List UInt16} : Emitted live [] live
  | reset {before live : List UInt16} {packets : List (List UInt8)} : Emitted [] packets live →
      Emitted before packets live
  | packet {before live : List UInt16} {packet : List UInt8} {packets : List (List UInt8)} :
      (∀ phys ∈ lookups .intr packet, phys ∈ before) →
      (∀ phys, lifecycleHandle hciEventConCompl packet = some phys → phys ∉ before) →
      Emitted (followEvent before packet) packets live → Emitted before (packet :: packets) live

namespace Emitted

theorem send {before live : List UInt16} {packets : List (List UInt8)} {packet : List UInt8}
    (emitted : Emitted before packets live) (about : ∀ phys ∈ lookups .intr packet, phys ∈ live)
    (new : ∀ phys, lifecycleHandle hciEventConCompl packet = some phys → phys ∉ live) :
    Emitted before (packets ++ [packet]) (followEvent live packet) := by
  induction emitted with
  | done => exact .packet about new .done
  | reset _ ih => exact .reset (ih about new)
  | packet first fresh _ ih => exact .packet first fresh (ih about new)

theorem executed {before live : List UInt16} {packets : List (List UInt8)}
    (emitted : Emitted before packets live) : Emitted before packets [] := by
  induction emitted with
  | done => exact .reset .done
  | reset _ ih => exact .reset ih
  | packet first fresh _ ih => exact .packet first fresh ih

theorem first {before live : List UInt16} {packet : List UInt8} {packets : List (List UInt8)}
    (emitted : Emitted before (packet :: packets) live) :
    ∃ left, (left = before ∨ left = []) ∧ (∀ phys ∈ lookups .intr packet, phys ∈ left) ∧
      (∀ phys, lifecycleHandle hciEventConCompl packet = some phys → phys ∉ left) ∧
      Emitted (followEvent left packet) packets live := by
  generalize queue : packet :: packets = all at emitted
  induction emitted with
  | done => cases queue
  | reset _ ih =>
      obtain ⟨left, from_, about, new, rest⟩ := ih queue
      refine ⟨left, Or.inr ?_, about, new, rest⟩
      rcases from_ with empty | empty
      · exact empty
      · exact empty
  | @packet before live first rest about new later _ =>
      cases queue
      exact ⟨before, Or.inl rfl, about, new, later⟩

end Emitted

theorem followEvent_nodup {live : List UInt16} {packet : List UInt8} (once : live.Nodup)
    (new : ∀ phys, lifecycleHandle hciEventConCompl packet = some phys → phys ∉ live) :
    (followEvent live packet).Nodup := by
  unfold followEvent
  rcases opens : lifecycleHandle hciEventConCompl packet with _ | phys
  · rcases closes : lifecycleHandle hciEventDisconCompl packet with _ | phys
    · exact once
    · exact once.erase phys
  · exact List.nodup_cons.mpr ⟨new phys opens, once⟩

/-- An event keeps the connections of the controller among those reported and those lost. -/
theorem followEvent_covers {before reported lost : List UInt16} {packet : List UInt8}
    (once : before.Nodup)
    (new : ∀ phys, lifecycleHandle hciEventConCompl packet = some phys → phys ∉ before)
    (covered : ∀ phys ∈ before, phys ∈ reported ∨ phys ∈ lost) :
    ∀ phys ∈ followEvent before packet,
      phys ∈ followEvent reported packet ∨ phys ∈ forget lost packet := by
  intro phys member
  unfold followEvent at member ⊢
  unfold forget
  rcases opens : lifecycleHandle hciEventConCompl packet with _ | opened
  · rw [opens] at member
    rcases closes : lifecycleHandle hciEventDisconCompl packet with _ | closed
    · rw [closes] at member
      exact covered phys member
    · rw [closes] at member
      obtain ⟨different, old⟩ := (once.mem_erase_iff).mp member
      rcases covered phys old with known | gone
      · exact Or.inl ((List.mem_erase_of_ne different).mpr known)
      · exact Or.inr gone
  · rw [opens] at member
    rcases List.mem_cons.mp member with rfl | old
    · exact Or.inl List.mem_cons_self
    · have different : phys ≠ opened := by
        rintro rfl
        exact new phys opens old
      rcases covered phys old with known | gone
      · exact Or.inl (List.mem_cons_of_mem _ known)
      · exact Or.inr (List.mem_filter.mpr ⟨gone, decide_eq_true different⟩)

structure Synced (s : World) (bus : Bus) : Prop where
  entries : (s.core.hci.table.live.map (·.phys)).Perm bus.reported
  distinct : VirtDistinct s.core.hci.table
  whole : ∀ ep, ∀ packet ∈ bus.flight ep, Whole ep packet
  /-- The connections that the controller had when it sent the first event on its way. -/
  sent : ∃ before, before.Nodup ∧ (∀ phys ∈ before, phys ∈ bus.reported ∨ phys ∈ bus.lost) ∧
    Emitted before (bus.flight .intr) bus.live

namespace Synced

variable {s t : World} {bus : Bus}

theorem init (env : Environment) : Synced (World.init env) .idle where
  entries := by simp [World.init, HciState.init, Bus.idle]
  distinct := by simp [World.init, HciState.init, VirtDistinct]
  whole := by
    intro ep packet member
    cases member
  sent := by
    refine ⟨[], List.nodup_nil, ?_, Emitted.done⟩
    intro phys member
    cases member

theorem command {input : Input} (synced : Synced s bus) (run : step s input = .ok t)
    (other : ¬input.delivers) : Synced t (bus.command input) := by
  obtain ⟨before, once, covered, emitted⟩ := synced.sent
  have moved := step_table run
  have same (kept : bus.command input = bus) (table : t.core.hci.table = s.core.hci.table) :
      Synced t (bus.command input) := by
    rw [kept]
    refine ⟨?_, ?_, synced.whole, synced.sent⟩
    · rw [table]
      exact synced.entries
    · rw [table]
      exact synced.distinct
  generalize table : t.core.hci.table = after at moved
  cases moved with
  | @reset data opcode =>
      have issued : bus.command (.hciCommand data) = { bus with
          resets := bus.resets + 1, reported := [], lost := bus.reported ++ bus.lost } :=
        if_pos opcode
      rw [issued]
      refine ⟨?_, ?_, synced.whole, before, once, ?_, emitted⟩
      · rw [table]
        simp
      · rw [table]
        simp [VirtDistinct]
      · intro phys member
        exact Or.inr (List.mem_append.mpr (covered phys member))
  | event positive tracked => exact absurd positive other
  | kept untouched =>
      refine same ?_ table
      cases input with
      | hciCommand data => exact if_neg (of_decide_eq_false untouched)
      | _ => rfl

theorem emit {ep : EndpointId} {packet : List UInt8} (synced : Synced s bus)
    (sends : Sends (s, bus) (.emit ep packet)) : Synced s (bus.emit ep packet) := by
  obtain ⟨whole, about, new⟩ := sends
  obtain ⟨before, once, covered, emitted⟩ := synced.sent
  refine ⟨synced.entries, synced.distinct, ?_, before, once, covered, ?_⟩
  · intro other p member
    by_cases same : other = ep
    · subst same
      simp only [Bus.emit, Function.update_self] at member
      rcases List.mem_append.mp member with old | fresh
      · exact synced.whole other p old
      · rw [List.mem_singleton.mp fresh]
        exact whole
    · simp only [Bus.emit, Function.update_of_ne same] at member
      exact synced.whole other p member
  · cases ep with
    | intr =>
        simp only [Bus.emit, Function.update_self]
        exact emitted.send about (new rfl)
    | bulkIn => exact emitted

theorem executeReset (synced : Synced s bus) :
    Synced s { bus with live := [], resets := bus.resets - 1 } := by
  obtain ⟨before, once, covered, emitted⟩ := synced.sent
  exact ⟨synced.entries, synced.distinct, synced.whole, before, once, covered, emitted.executed⟩

theorem mapStep {hci : HciState} {data : List UInt8} {reported : List UInt16} {table : ConHandleMap}
    (moved : MapStep hci data table) (entries : (hci.table.live.map (·.phys)).Perm reported)
    (distinct : VirtDistinct hci.table)
    (fresh : lifecycleHandle hciEventConCompl data ≠ none →
      (hciConHandleVirtAlloc hci).1 ∉ hci.table.live.map (·.virt)) :
    (table.live.map (·.phys)).Perm (followEvent reported data) ∧ VirtDistinct table := by
  cases moved with
  | opened opens mapped =>
      simp only [followEvent, opens]
      exact ⟨entries_connect entries mapped, distinct.connect (fresh (by simp [opens])) mapped⟩
  | closed opens closes found unmapped =>
      simp only [followEvent, opens, closes]
      exact ⟨entries_disconnect entries distinct found unmapped, distinct.disconnect unmapped⟩
  | kept opens closes =>
      simp only [followEvent, opens, closes]
      exact ⟨entries, distinct⟩

theorem followEvent_filled {ep : EndpointId} {packet : List UInt8} (whole : Whole ep packet)
    (live : List UInt16) (rest : List UInt8) :
    followEvent live (packet ++ rest) = followEvent live packet := by
  simp only [followEvent, (whole rest).2]

theorem deliver {ep : EndpointId} {retval : Int} {packet : List UInt8} {rest : List (List UInt8)}
    (synced : Synced s bus) (first : bus.flight ep = packet :: rest) (positive : 0 < retval)
    (safe : nothingLost (s, bus) (.deliver ep retval))
    (run : step s (.handDownReply ep retval packet) = .ok t) :
    Synced t (bus.deliver ep packet rest) := by
  obtain ⟨before, once, covered, emitted⟩ := synced.sent
  have whole : Whole ep packet := synced.whole ep packet (by rw [first]; exact List.mem_cons_self)
  have others : ∀ other, ∀ p ∈ (Function.update bus.flight ep rest) other, Whole other p := by
    intro other p member
    by_cases same : other = ep
    · subst same
      rw [Function.update_self] at member
      exact synced.whole other p (by rw [first]; exact List.mem_cons_of_mem _ member)
    · rw [Function.update_of_ne same] at member
      exact synced.whole other p member
  have moved := step_table run
  generalize table : t.core.hci.table = after at moved
  cases ep with
  | bulkIn =>
      cases moved with
      | kept untouched =>
          refine ⟨?_, ?_, others, before, once, covered, emitted⟩
          · rw [table]
            exact synced.entries
          · rw [table]
            exact synced.distinct
  | intr =>
      rw [first] at emitted
      obtain ⟨left, from_, about, new, later⟩ := emitted.first
      have leftOnce : left.Nodup := by
        rcases from_ with rfl | rfl
        · exact once
        · exact List.nodup_nil
      have leftCovered : ∀ phys ∈ left, phys ∈ bus.reported ∨ phys ∈ bus.lost := by
        rcases from_ with rfl | rfl
        · exact covered
        · intro phys member
          cases member
      obtain ⟨-, fresh⟩ := safe packet (by rw [first]; rfl)
      cases moved with
      | kept untouched => exact absurd positive (of_decide_eq_false untouched)
      | event _ tracked =>
          have steps := tracked.mapStep
          unfold Endpoint.filled at steps
          have opens := (whole (s.intr.handDown.data.drop packet.length)).2 hciEventConCompl
          obtain ⟨entries, distinct⟩ := mapStep steps synced.entries synced.distinct
            (by rw [opens]; exact fresh)
          rw [followEvent_filled whole] at entries
          refine ⟨?_, ?_, others, followEvent left packet, followEvent_nodup leftOnce new,
            followEvent_covers leftOnce new leftCovered, ?_⟩
          · rw [table]
            exact entries
          · rw [table]
            exact distinct
          · simp only [Bus.deliver, Function.update_self]
            exact later

theorem lookups_mapped {ep : EndpointId} {retval : Int} {packet : List UInt8}
    {rest : List (List UInt8)} (synced : Synced s bus) (first : bus.flight ep = packet :: rest)
    (safe : nothingLost (s, bus) (.deliver ep retval)) :
    ∀ phys ∈ lookups ep ((s.endpoint ep).filled packet),
      s.core.hci.table.hciVirtConHandleGetVirt phys ≠ none := by
  have whole : Whole ep packet := synced.whole ep packet (by rw [first]; exact List.mem_cons_self)
  intro phys needed
  unfold Endpoint.filled at needed
  rw [(whole _).1] at needed
  have reported : phys ∈ bus.reported := by
    cases ep with
    | bulkIn => exact safe packet (by rw [first]; rfl) phys needed
    | intr =>
        obtain ⟨before, once, covered, emitted⟩ := synced.sent
        rw [first] at emitted
        obtain ⟨left, from_, about, -, -⟩ := emitted.first
        have had : phys ∈ before := by
          rcases from_ with rfl | rfl
          · exact about phys needed
          · cases about phys needed
        rcases covered phys had with known | gone
        · exact known
        · exact absurd gone ((safe packet (by rw [first]; rfl)).1 phys needed)
  obtain ⟨e, entry, same⟩ := List.mem_map.mp (synced.entries.mem_iff.mpr reported)
  obtain ⟨virt, found⟩ := ConHandleMap.hciVirtConHandleGetVirt_some entry
  rw [← same, found]
  exact Option.some_ne_none virt

end Synced

/-- The runs of the module and a controller in which nothing is lost. -/
abbrev BusRun (env : Environment) (condition : World × Bus → Action → Prop) : World × Bus → Prop :=
  Reachable busStep (fun state action => Sends state action ∧ condition state action)
    (World.init env, .idle)

theorem BusRun.synced {env : Environment} {state : World × Bus}
    (reached : BusRun env nothingLost state) : Synced state.1 state.2 := by
  refine reached.invariant (fun state => Synced state.1 state.2) (Synced.init env) ?_
  intro before after action synced allowed run
  obtain ⟨s, bus⟩ := before
  obtain ⟨sends, safe⟩ := allowed
  cases action with
  | module input =>
      simp only [busStep] at run
      rcases stepped : step s input with fault | t
      · rw [stepped] at run
        cases run
      · rw [stepped] at run
        cases run
        exact synced.command stepped sends.2
  | emit ep packet =>
      cases run
      exact synced.emit sends
  | executeReset =>
      cases run
      exact synced.executeReset
  | deliver ep retval =>
      obtain ⟨positive, packet, head, -⟩ := sends
      obtain ⟨rest, first⟩ := List.head?_eq_some_iff.mp head
      dsimp only at first
      simp only [busStep, first] at run
      rcases stepped : step s (.handDownReply ep retval packet) with fault | t
      · rw [stepped] at run
        cases run
      · rw [stepped] at run
        cases run
        exact synced.deliver first positive safe stepped

/-- In a run in which nothing is lost no lookup of a physical handle fails. -/
theorem controller_handles_found {env : Environment} {state : World × Bus} {ep : EndpointId}
    {retval : Int} (reached : BusRun env nothingLost state)
    (sends : Sends state (.deliver ep retval)) (safe : nothingLost state (.deliver ep retval)) :
    busStep state (.deliver ep retval) ≠ .error (.assertion .conHandleGetVirt) := by
  obtain ⟨s, bus⟩ := state
  obtain ⟨-, packet, head, -⟩ := sends
  obtain ⟨rest, first⟩ := List.head?_eq_some_iff.mp head
  dsimp only at first
  simp only [busStep, first]
  have found : FindsHandles (step s (.handDownReply ep retval packet)) :=
    handDownReply_finds (reached.synced.lookups_mapped first safe)
  rcases stepped : step s (.handDownReply ep retval packet) with fault | t
  · rw [stepped] at found
    exact fun failed => found (congrArg Except.error (Except.error.inj failed))
  · exact fun failed => by cases failed

def deviceConnected : List UInt8 := [hciEventConCompl, 11, 0, 1, 0, 0, 0, 0, 0, 0, 0, 1, 0]

def devicePacketCompleted : List UInt8 := [hciEventNumComplPkts, 5, 1, 1, 0, 1, 0]

theorem whole_device : ∀ packet ∈ [deviceConnected, devicePacketCompleted], Whole .intr packet := by
  intro packet member rest
  simp only [List.mem_cons, List.not_mem_nil, or_false] at member
  rcases member with rfl | rfl
  · exact ⟨rfl, fun _ => rfl⟩
  · exact ⟨rfl, fun _ => rfl⟩

def DeviceSends (state : World × Bus) : Action → Prop
  | .emit ep packet => (ep = .intr ∧ packet ∈ [deviceConnected, devicePacketCompleted]) ∧
      (∀ phys ∈ lookups ep packet, phys ∈ state.2.live) ∧
      ∀ phys ∈ lifecycleHandle hciEventConCompl packet, phys ∉ state.2.live
  | .module (.handDownReply _ _ _) => False
  | action => Sends state action

theorem DeviceSends.sends {state : World × Bus} {action : Action}
    (sends : DeviceSends state action) : Sends state action := by
  cases action with
  | emit ep packet =>
      obtain ⟨⟨rfl, member⟩, about, new⟩ := sends
      exact ⟨whole_device packet member, about, fun _ => new⟩
  | module input =>
      cases input with
      | handDownReply ep retval written => exact sends.elim
      | _ => exact sends
  | executeReset | deliver => exact sends

instance decidableSendsDeliver (state : World × Bus) (ep : EndpointId) (retval : Int) :
    Decidable (Sends state (.deliver ep retval)) :=
  inferInstanceAs (Decidable (0 < retval ∧ ∃ packet ∈ (state.2.flight ep).head?,
    Possible state.1 (.handDownReply ep retval packet)))

instance decidableDeviceSends (state : World × Bus) :
    (action : Action) → Decidable (DeviceSends state action)
  | .emit ep packet =>
      inferInstanceAs (Decidable ((ep = .intr ∧ packet ∈ [deviceConnected, devicePacketCompleted]) ∧
        (∀ phys ∈ lookups ep packet, phys ∈ state.2.live) ∧
        ∀ phys ∈ lifecycleHandle hciEventConCompl packet, phys ∉ state.2.live))
  | .module (.handDownReply _ _ _) => .isFalse id
  | .module (.hciCommand _) | .module (.aclOut _) | .module (.bufferRequest _ _)
  | .module (.timer _) => .isTrue ⟨trivial, id⟩
  | .executeReset => inferInstanceAs (Decidable (0 < state.2.resets))
  | .deliver ep retval => decidableSendsDeliver state ep retval

instance decidableNothingLost (state : World × Bus) :
    (action : Action) → Decidable (nothingLost state action)
  | .deliver .intr _ =>
      inferInstanceAs (Decidable (∀ packet ∈ (state.2.flight .intr).head?,
        (∀ phys ∈ lookups .intr packet, phys ∉ state.2.lost) ∧
        (lifecycleHandle hciEventConCompl packet ≠ none → _ ∉ List.map _ _)))
  | .deliver .bulkIn _ =>
      inferInstanceAs (Decidable (∀ packet ∈ (state.2.flight .bulkIn).head?,
        ∀ phys ∈ lookups .bulkIn packet, phys ∈ state.2.reported))
  | .module _ | .emit _ _ | .executeReset => .isTrue trivial

def deviceOpens : List Action :=
  [.emit .intr deviceConnected, .module (.bufferRequest .intr ⟨0, 0, 64⟩), .deliver .intr 13]

def deviceSends : List Action :=
  [.emit .intr devicePacketCompleted, .module (.bufferRequest .intr ⟨1, 0, 64⟩)]

theorem controller_handles_found_device : ∃ state, BusRun .lenient nothingLost state ∧
    Sends state (.deliver .intr 7) ∧
    busStep state (.deliver .intr 7) ≠ .error (.assertion .conHandleGetVirt) := by
  obtain ⟨state, reached, check⟩ : ∃ state, Reachable busStep
      (fun state action => DeviceSends state action ∧ nothingLost state action)
      (World.init .lenient, .idle) state ∧
      decide (Sends state (.deliver .intr 7) ∧ nothingLost state (.deliver .intr 7)) = true :=
    exists_of_execute (deviceOpens ++ deviceSends) (by decide +kernel)
  obtain ⟨sends, safe⟩ := of_decide_eq_true check
  have run : BusRun .lenient nothingLost state :=
    reached.weaken fun _ _ allowed => ⟨allowed.1.sends, allowed.2⟩
  exact ⟨state, run, sends, controller_handles_found run sends safe⟩

/-- The host resets while the event is on its way, and the controller has not executed the reset
when the event comes back. -/
theorem reset_loses_event_in_flight : ∃ state, BusRun .lenient (fun _ _ => True) state ∧
    state.2.resets = 1 ∧ Sends state (.deliver .intr 7) ∧
    busStep state (.deliver .intr 7) = .error (.assertion .conHandleGetVirt) := by
  obtain ⟨state, reached, check⟩ : ∃ state, Reachable busStep DeviceSends
      (World.init .lenient, .idle) state ∧
      decide (state.2.resets = 1 ∧ Sends state (.deliver .intr 7) ∧
        faultOf (busStep state (.deliver .intr 7)) = some (.assertion .conHandleGetVirt)) = true :=
    exists_of_execute (deviceOpens ++ deviceSends ++ [.module (.hciCommand [0x03, 0x0C, 0])])
      (by decide +kernel)
  obtain ⟨issued, sends, fault⟩ := of_decide_eq_true check
  exact ⟨state, reached.weaken fun _ _ allowed => ⟨allowed.sends, trivial⟩, issued, sends,
    faultOf_eq_some.mp fault⟩

end Fakemote
