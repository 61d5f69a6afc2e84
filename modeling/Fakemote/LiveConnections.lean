import Fakemote.HandleTranslation
import Fakemote.VirtualHandles

/-! The handle map holds the connections of the controller: one entry for each, by which its
packets are translated back and forth. -/

namespace Fakemote

open Bytes Program Ledger Transition

def Label.touchesTable : Label → Bool
  | .reset | .reply _ _ _ _ _ => true
  | _ => false

theorem act_table {a : Ledger} {label : Label} (enabled : a.Enabled label)
    (untouched : label.touchesTable = false) :
    (a.act label).core.hci.table = a.core.hci.table := by
  by_cases hci : label.touchesHci = false
  · rw [act_hci hci]
  · cases label with
    | snoop hci => exact enabled.1
    | accept w => rw [accept_core]; rfl
    | reset | reply => cases untouched
    | _ => exact absurd rfl hci

theorem path_table {a b : Ledger} {labels : List Label} (path : a.Path labels b)
    (untouched : ∀ label ∈ labels, label.touchesTable = false) :
    b.core.hci.table = a.core.hci.table := by
  induction labels generalizing a with
  | nil =>
      cases path
      rfl
  | cons label labels ih =>
      have first := act_table path.1 (untouched label List.mem_cons_self)
      have rest := ih path.2 fun l member => untouched l (List.mem_cons_of_mem _ member)
      exact rest.trans first

theorem EventsOnly.untouched {events : List Label} (only : EventsOnly events) :
    ∀ label ∈ events, label.touchesTable = false := by
  intro label member
  obtain ⟨code, data, placed, rfl⟩ := only label member
  rfl

/-- The inputs after which the map can differ: a reset, and an event from the controller. -/
def Input.touchesTable : Input → Bool
  | .hciCommand data => commandOpcode data = some hciCmdReset
  | .handDownReply .intr retval _ => 0 < retval
  | _ => false

inductive TableStep (s : World) : Input → ConHandleMap → Prop
  | reset {data : List UInt8} : commandOpcode data = some hciCmdReset →
      TableStep s (.hciCommand data) s.core.hci.table.invalidate
  | event {retval : Int} {written tracked : List UInt8} {hci : HciState} : 0 < retval →
      Tracked s.core.hci (s.intr.filled written) hci tracked →
      TableStep s (.handDownReply .intr retval written) hci.table
  | kept {input : Input} : input.touchesTable = false → TableStep s input s.core.hci.table

theorem step_table {s t : World} {input : Input} (run : step s input = .ok t) :
    TableStep s input t.core.hci.table := by
  obtain ⟨labels, moves, path⟩ := step_moves run
  have kept (untouched : ∀ label ∈ labels, label.touchesTable = false)
      (other : input.touchesTable = false) : TableStep s input t.core.hci.table := by
    have same : t.core.hci.table = s.core.hci.table := path_table path untouched
    rw [same]
    exact .kept other
  have ending {events : List Label} {last : Label} (same : labels = events ++ [last])
      (before : ∀ label ∈ events, label.touchesTable = false)
      (final : last.touchesTable = false) : ∀ label ∈ labels, label.touchesTable = false := by
    intro label member
    rw [same] at member
    rcases List.mem_append.mp member with early | late
    · exact before label early
    · rw [List.mem_singleton.mp late]
      exact final
  have answered {data : List UInt8} {opcode : UInt16} (found : commandOpcode data = some opcode)
      (other : opcode ≠ hciCmdReset) : (Input.hciCommand data).touchesTable = false := by
    simp [Input.touchesTable, found, other]
  cases moves with
  | accept found only =>
      exact kept (ending rfl only.untouched rfl) (answered (addressed_opcode found) (by decide))
  | reject found =>
      refine kept ?_ (answered (addressed_opcode found) (by decide))
      intro label member
      rw [List.mem_singleton.mp member]
      rfl
  | disconnect opcode found only =>
      exact kept (ending rfl only.untouched rfl) (answered opcode (by decide))
  | reset opcode =>
      obtain ⟨-, -, -, last⟩ := path
      have table : t.core.hci.table = s.core.hci.table.invalidate := by
        have after := congrArg (fun a => a.core.hci.table) last
        refine after.trans ?_
        change ((s.ledger.act (.forget 0)).act (.forget 1)).core.hci.table.invalidate = _
        rw [act_hci rfl, act_hci rfl]
        rfl
      rw [table]
      exact .reset opcode
  | answer unanswering only =>
      exact kept only.untouched (by simpa [Input.touchesTable] using unanswering.reset)
  | forward unanswering only =>
      exact kept (ending rfl only.untouched rfl)
        (by simpa [Input.touchesTable] using unanswering.reset)
  | consume found disconnects length =>
      refine kept ?_ rfl
      intro label member
      rcases List.mem_cons.mp member with rfl | later
      · rfl
      · obtain ⟨placed, rfl⟩ := disconnects label later
        rfl
  | translate | bufferRequest | bulkInReply =>
      exact kept (fun label member => by cases member) rfl
  | @intrReply retval written tracked hci placed =>
      obtain ⟨enabled, last⟩ := path
      have table : t.core.hci.table = hci.table := congrArg (fun a => a.core.hci.table) last
      rw [table]
      simp only [Enabled] at enabled
      by_cases positive : 0 < retval
      · rw [if_pos positive] at enabled
        exact .event positive (handleEvent_tracked enabled)
      · rw [if_neg positive] at enabled
        rw [enabled.1]
        exact .kept (decide_eq_false positive)
  | timer only =>
      refine kept (ending rfl ?_ rfl) rfl
      intro label member
      cases only label member <;> rfl

def lifecycleHandle (code : UInt8) (data : List UInt8) : Option UInt16 :=
  match load16 data (hciEventHdrSize + 1) with
  | .ok phys =>
      if load8 data 0 = .ok code ∧ load8 data hciEventHdrSize = .ok 0 then some (le16toh phys)
      else none
  | .error _ => none

def followEvent (live : List UInt16) (data : List UInt8) : List UInt16 :=
  match lifecycleHandle hciEventConCompl data, lifecycleHandle hciEventDisconCompl data with
  | some phys, _ => phys :: live
  | none, some phys => live.erase phys
  | none, none => live

def followInput (live : List UInt16) (s : World) (input : Input) (_ : World) : List UInt16 :=
  match input with
  | .hciCommand data => if commandOpcode data = some hciCmdReset then [] else live
  | .handDownReply .intr retval written =>
      if 0 < retval then followEvent live (s.intr.filled written) else live
  | _ => live

/-- The controller gives a new connection a handle of twelve bits that is not live. -/
def NewHandle (live : List UInt16) (data : List UInt8) : Prop :=
  ∀ phys, lifecycleHandle hciEventConCompl data = some phys → phys.toNat < 4096 ∧ phys ∉ live

def VirtDistinct (table : ConHandleMap) : Prop := (table.live.map (·.virt)).Nodup

def disciplined (state : World × List UInt16) : Input → Prop
  | .handDownReply .intr retval written =>
      VirtDistinct state.1.core.hci.table ∧
        (0 < retval → NewHandle state.2 (state.1.intr.filled written))
  | _ => VirtDistinct state.1.core.hci.table

section Entries

variable {table after : ConHandleMap} {live : List UInt16} {phys virt : UInt16}

theorem entries_connect (entries : (table.live.map (·.phys)).Perm live)
    (mapped : table.hciVirtConHandleMap phys virt = some after) :
    (after.live.map (·.phys)).Perm (phys :: live) := by
  have added := (ConHandleMap.hciVirtConHandleMap_live mapped).map (fun e : MapEntry => e.phys)
  exact added.trans (entries.cons phys)

theorem entries_disconnect (entries : (table.live.map (·.phys)).Perm live)
    (distinct : VirtDistinct table) (found : table.hciVirtConHandleGetVirt phys = some virt)
    (unmapped : table.hciVirtConHandleUnmapVirt virt = some after) :
    (after.live.map (·.phys)).Perm (live.erase phys) := by
  obtain ⟨e, shared, removed⟩ := ConHandleMap.hciVirtConHandleUnmapVirt_live unmapped
  have entry : e ∈ table.live := removed.mem_iff.mpr List.mem_cons_self
  -- The first entry with this virtual handle is the one with this physical handle.
  have same : e = ⟨true, virt, phys⟩ :=
    List.inj_on_of_nodup_map distinct entry (ConHandleMap.maps_of_getVirt found) shared
  have perm := removed.map (fun e : MapEntry => e.phys)
  rw [same] at perm
  have left := (entries.symm.trans perm).erase phys
  rw [List.map_cons, List.erase_cons_head] at left
  exact left.symm

theorem VirtDistinct.connect (distinct : VirtDistinct table)
    (new : virt ∉ table.live.map (·.virt))
    (mapped : table.hciVirtConHandleMap phys virt = some after) : VirtDistinct after := by
  have added := (ConHandleMap.hciVirtConHandleMap_live mapped).map (fun e : MapEntry => e.virt)
  exact added.nodup_iff.mpr (List.nodup_cons.mpr ⟨new, distinct⟩)

theorem VirtDistinct.disconnect (distinct : VirtDistinct table)
    (unmapped : table.hciVirtConHandleUnmapVirt virt = some after) : VirtDistinct after := by
  obtain ⟨e, -, removed⟩ := ConHandleMap.hciVirtConHandleUnmapVirt_live unmapped
  have fewer := removed.map (fun e : MapEntry => e.virt)
  exact (List.nodup_cons.mp (fewer.nodup_iff.mp distinct)).2

end Entries

/-- The entries of the map are the live connections, each once. -/
structure Tracks (table : ConHandleMap) (live : List UInt16) : Prop where
  entries : (table.live.map (·.phys)).Perm live
  once : live.Nodup
  narrow : table.Narrow

namespace Tracks

variable {table : ConHandleMap} {live : List UInt16}

theorem injective (tracks : Tracks table live) (distinct : VirtDistinct table) :
    table.Injective :=
  ⟨tracks.entries.nodup_iff.mpr tracks.once, distinct⟩

theorem mem_iff (tracks : Tracks table live) {phys : UInt16} :
    phys ∈ live ↔ ∃ virt, table.Maps phys virt := by
  rw [← tracks.entries.mem_iff, List.mem_map]
  constructor
  · rintro ⟨e, entry, rfl⟩
    exact ⟨e.virt, ConHandleMap.maps_of_live entry⟩
  · rintro ⟨virt, maps⟩
    exact ⟨_, maps, rfl⟩

theorem empty (table : ConHandleMap) : Tracks table.invalidate [] where
  entries := by simp
  once := List.nodup_nil
  narrow := by simp [ConHandleMap.Narrow]

theorem connect {after : ConHandleMap} {phys virt : UInt16} (tracks : Tracks table live)
    (mapped : table.hciVirtConHandleMap phys virt = some after) (new : phys ∉ live)
    (narrow : phys.toNat < 4096 ∧ virt.toNat < 4096) : Tracks after (phys :: live) := by
  constructor
  · exact entries_connect tracks.entries mapped
  · exact List.nodup_cons.mpr ⟨new, tracks.once⟩
  · intro e entry
    have added := ConHandleMap.hciVirtConHandleMap_live mapped
    rcases List.mem_cons.mp (added.mem_iff.mp entry) with rfl | old
    · exact narrow
    · exact tracks.narrow e old

theorem disconnect {after : ConHandleMap} {phys virt : UInt16} (tracks : Tracks table live)
    (distinct : VirtDistinct table) (found : table.hciVirtConHandleGetVirt phys = some virt)
    (unmapped : table.hciVirtConHandleUnmapVirt virt = some after) :
    Tracks after (live.erase phys) := by
  constructor
  · exact entries_disconnect tracks.entries distinct found unmapped
  · exact tracks.once.erase phys
  · intro e member
    obtain ⟨gone, -, removed⟩ := ConHandleMap.hciVirtConHandleUnmapVirt_live unmapped
    exact tracks.narrow e (removed.mem_iff.mpr (List.mem_cons_of_mem _ member))

end Tracks

theorem lifecycleHandle_other {data : List UInt8} {code other : UInt8}
    (event : load8 data 0 = .ok code) (different : code ≠ other) :
    lifecycleHandle other data = none := by
  unfold lifecycleHandle
  split
  · rw [if_neg]
    intro same
    exact different (Except.ok.inj (event.symm.trans same.1))
  · rfl

theorem lifecycleHandle_failed {data : List UInt8} {status : UInt8} (code : UInt8)
    (statusAt : load8 data hciEventHdrSize = .ok status) (failed : status ≠ 0) :
    lifecycleHandle code data = none := by
  unfold lifecycleHandle
  split
  · rw [if_neg]
    intro succeeds
    exact failed (Except.ok.inj (statusAt.symm.trans succeeds.2))
  · rfl

theorem alloc_narrow {hci : HciState} (counted : Counted hci) :
    (hciConHandleVirtAlloc hci).1.toNat < 4096 := by
  have small : hci.allocated.length % 256 < 256 := Nat.mod_lt _ (by decide)
  change hci.lastHciVirtConHandle.toNat < 4096
  rw [counted.next, nextHandle, UInt16.toNat_ofNat_of_lt' (Nat.lt_trans small (by decide))]
  omega

inductive MapStep (hci : HciState) (data : List UInt8) : ConHandleMap → Prop
  | opened {phys : UInt16} {after : ConHandleMap} :
      lifecycleHandle hciEventConCompl data = some phys →
      hci.table.hciVirtConHandleMap phys (hciConHandleVirtAlloc hci).1 = some after →
      MapStep hci data after
  | closed {phys virt : UInt16} {after : ConHandleMap} :
      lifecycleHandle hciEventConCompl data = none →
      lifecycleHandle hciEventDisconCompl data = some phys →
      hci.table.hciVirtConHandleGetVirt phys = some virt →
      hci.table.hciVirtConHandleUnmapVirt virt = some after → MapStep hci data after
  | kept : lifecycleHandle hciEventConCompl data = none →
      lifecycleHandle hciEventDisconCompl data = none → MapStep hci data hci.table

theorem Tracked.mapStep {hci after : HciState} {data out : List UInt8}
    (tracked : Tracked hci data after out) : MapStep hci data after.table := by
  have others {code : UInt8} (event : load8 data 0 = .ok code) (opens : code ≠ hciEventConCompl)
      (closes : code ≠ hciEventDisconCompl) : MapStep hci data hci.table :=
    .kept (lifecycleHandle_other event opens) (lifecycleHandle_other event closes)
  have succeeds {code : UInt8} {phys : UInt16} (event : load8 data 0 = .ok code)
      (status : load8 data hciEventHdrSize = .ok 0)
      (physAt : load16 data (hciEventHdrSize + 1) = .ok phys) :
      lifecycleHandle code data = some (le16toh phys) := by
    simp only [lifecycleHandle, physAt]
    exact if_pos ⟨event, status⟩
  cases tracked with
  | connected event status physAt mapped stored =>
      exact .opened (succeeds event status physAt) mapped
  | disconnected event status physAt found unmapped stored =>
      exact .closed (lifecycleHandle_other event (by decide)) (succeeds event status physAt) found
        unmapped
  | failed event lifecycle statusAt failure =>
      exact .kept (lifecycleHandle_failed _ statusAt failure)
        (lifecycleHandle_failed _ statusAt failure)
  | commandCompl event run => exact others event (by decide) (by decide)
  | numComplPkts event countAt run => exact others event (by decide) (by decide)
  | @translated code offset out event listed run =>
      have different {other : UInt8} (unlisted : translatedEvents.lookup other = none) :
          code ≠ other := by
        intro same
        rw [same, unlisted] at listed
        cases listed
      exact others event (different (by decide)) (different (by decide))
  | passed event opens closes => exact others event opens closes

theorem followEvent_tracks {hci after : HciState} {live : List UInt16} {data out : List UInt8}
    (tracked : Tracked hci data after out) (tracks : Tracks hci.table live)
    (counted : Counted hci) (distinct : VirtDistinct hci.table) (new : NewHandle live data) :
    Tracks after.table (followEvent live data) := by
  have moved := tracked.mapStep
  generalize after.table = table at moved ⊢
  cases moved with
  | opened opens mapped =>
      obtain ⟨narrow, fresh⟩ := new _ opens
      simp only [followEvent, opens]
      exact tracks.connect mapped fresh ⟨narrow, alloc_narrow counted⟩
  | closed opens closes found unmapped =>
      simp only [followEvent, opens, closes]
      exact tracks.disconnect distinct found unmapped
  | kept opens closes =>
      simp only [followEvent, opens, closes]
      exact tracks

theorem followInput_tracks {s t : World} {input : Input} {live : List UInt16}
    (run : step s input = .ok t) (tracks : Tracks s.core.hci.table live)
    (counted : Counted s.core.hci) (allowed : disciplined (s, live) input) :
    Tracks t.core.hci.table (followInput live s input t) := by
  have moved := step_table run
  generalize t.core.hci.table = after at moved ⊢
  cases moved with
  | reset opcode =>
      simp only [followInput, if_pos opcode]
      exact Tracks.empty _
  | event positive tracked =>
      simp only [followInput, if_pos positive]
      exact followEvent_tracks tracked tracks counted allowed.1 (allowed.2 positive)
  | kept untouched =>
      have same : followInput live s input t = live := by
        cases input with
        | hciCommand data => exact if_neg (of_decide_eq_false untouched)
        | handDownReply ep retval written =>
            cases ep with
            | intr => exact if_neg (of_decide_eq_false untouched)
            | bulkIn => rfl
        | _ => rfl
      rw [same]
      exact tracks

/-- The packets of a connection are translated so that translating them back restores them. -/
structure Invertible (hci : HciState) (phys virt : UInt16) : Prop where
  aclIn : ∀ data word, load16 data 0 = .ok word → hciConHandle (le16toh word) = phys →
    ∃ out, hciStateHandleAclDataInResponseFromController hci data = .ok out ∧
      translateAclOut hci out = .ok data ∧ WordReplaced data out 0 (rehandled word virt)
  aclOut : ∀ data word, load16 data 0 = .ok word → hciConHandle (le16toh word) = virt →
    ∃ out, translateAclOut hci data = .ok out ∧
      hciStateHandleAclDataInResponseFromController hci out = .ok data ∧
      WordReplaced data out 0 (rehandled word phys)
  command : ∀ opcode ∈ translatedCommands, ∀ data word,
    load16 data hciCmdHdrSize = .ok word → le16toh word = virt →
    ∃ out, snoopHciCmd hci opcode data = .ok (hci, out) ∧
      translateToVirt hci.table out hciCmdHdrSize = .ok data ∧
      WordReplaced data out hciCmdHdrSize (htole16 phys)

theorem invertible_of_maps {hci : HciState} {phys virt : UInt16} (injective : hci.table.Injective)
    (narrow : hci.table.Narrow) (maps : hci.table.Maps phys virt) : Invertible hci phys virt where
  aclIn := by
    intro data word loaded handle
    rw [← handle] at maps
    exact aclIn_maps injective narrow loaded maps
  aclOut := by
    intro data word loaded handle
    rw [← handle] at maps
    exact translateAclOut_maps injective narrow loaded maps
  command := by
    intro opcode listed data word loaded handle
    rw [← handle] at maps
    obtain ⟨out, run, back, replaced⟩ := translateToPhys_maps injective loaded maps
    refine ⟨out, ?_, back, replaced⟩
    rw [snoopHciCmd_translates listed, run]
    rfl

/-- A handle field of an event about live connections. That of a successful Connection Complete
event is about a new one, for which there is an entry and a virtual handle. -/
def EventAbout (hci : HciState) (live : List UInt16) (data : List UInt8) (offset : Nat) : Prop :=
  ∃ phys, load16 data offset = .ok phys ∧
    if opensConnection data then
      le16toh phys ∉ live ∧ live.length < maxHciConnections ∧
        (hciConHandleVirtAlloc hci).1 ∉ hci.table.live.map (·.virt)
    else le16toh phys ∈ live

/-- Every handle field holds a virtual handle that leads back to the physical one, and no other
byte has changed. -/
def EventInvertible (hci : HciState) (data : List UInt8) : Prop :=
  ∃ after out, hciStateHandleHciEventFromController hci data = .ok (after, out) ∧
    (∀ offset ∈ handleFields data, ∃ phys virt,
      load16 data offset = .ok phys ∧ load16 out offset = .ok (htole16 virt) ∧
        (if opensConnection data then after else hci).table.Maps (le16toh phys) virt ∧
        (if opensConnection data then after else hci).table.hciVirtConHandleGetPhys virt =
          some (le16toh phys)) ∧
    out.length = data.length ∧
    ∀ index, (∀ offset ∈ handleFields data, index ≠ offset ∧ index ≠ offset + 1) →
      out[index]? = data[index]?

theorem translateNumComplPkts_length {table : ConHandleMap} (count : Nat) :
    ∀ {offset : Nat} {data out : List UInt8},
      translateNumComplPkts table count offset data = .ok out → out.length = data.length := by
  induction count with
  | zero =>
      intro offset data out run
      cases run
      rfl
  | succ count ih =>
      intro offset data out run
      obtain ⟨first, translated, rest⟩ := except_bind_ok.mp run
      obtain ⟨phys, virt, -, -, stored⟩ := translateToVirt_ok.mp translated
      exact (ih rest).trans (wordReplaced stored).2.1

theorem Tracked.others {hci after : HciState} {data out : List UInt8}
    (tracked : Tracked hci data after out) (carries : handleFields data ≠ []) :
    out.length = data.length ∧
      ∀ index, (∀ offset ∈ handleFields data, index ≠ offset ∧ index ≠ offset + 1) →
        out[index]? = data[index]? := by
  have single {offset : Nat} {word : UInt16} (fields : handleFields data = [offset])
      (stored : store16 data offset word = .ok out) : out.length = data.length ∧
        ∀ index, (∀ offset ∈ handleFields data, index ≠ offset ∧ index ≠ offset + 1) →
          out[index]? = data[index]? := by
    obtain ⟨-, length, others⟩ := wordReplaced stored
    refine ⟨length, ?_⟩
    intro index outside
    rw [fields] at outside
    have apart := outside offset List.mem_cons_self
    exact others index apart.1 apart.2
  cases tracked with
  | connected event status physAt mapped stored => exact single (handleFields_event event rfl) stored
  | disconnected event status physAt found unmapped stored =>
      exact single (handleFields_event event rfl) stored
  | failed | passed => exact ⟨rfl, fun _ _ => rfl⟩
  | commandCompl event run =>
      have same : out = data := by
        obtain ⟨opcode, opcodeAt, run⟩ := except_bind_ok.mp run
        have different : le16toh opcode ≠ hciCmdReadStoredLinkKey := by
          intro same
          apply carries
          unfold handleFields
          rw [event]
          dsimp only
          rw [if_pos rfl, opcodeAt]
          dsimp only
          rw [same]
          rfl
        dsimp only at run
        rw [if_neg different] at run
        cases run
        rfl
      rw [same]
      exact ⟨rfl, fun _ _ => rfl⟩
  | @numComplPkts count out event countAt run =>
      refine ⟨translateNumComplPkts_length _ run, ?_⟩
      intro index outside
      apply (translateNumComplPkts_spec _ run).2
      intro i bound
      have fields : handleFields data =
          (List.range count.toNat).map fun i => hciEventHdrSize + 1 + 4 * i := by
        unfold handleFields
        rw [event]
        dsimp only
        rw [if_neg (by decide), if_pos rfl, countAt]
      rw [fields] at outside
      have apart := outside _ (List.mem_map_of_mem (List.mem_range.mpr bound))
      exact apart
  | @translated code offset out event listed run =>
      obtain ⟨phys, virt, -, -, stored⟩ := translateToVirt_ok.mp run
      have different {other : UInt8} (unlisted : translatedEvents.lookup other = none) :
          (code == other) = false := by
        apply beq_false_of_ne
        intro same
        rw [same, unlisted] at listed
        cases listed
      have found : eventConHandles.lookup code = some offset := by
        rw [← listed, eventConHandles, List.lookup_cons, List.lookup_cons,
          different (by decide), different (by decide)]
        rfl
      exact single (handleFields_event event found) stored

section Events

variable {hci : HciState} {live : List UInt16} {data : List UInt8}

theorem Tracks.aboutLive (tracks : Tracks hci.table live) {offset : Nat}
    (about : EventAbout hci live data offset) : AboutLive hci data offset := by
  obtain ⟨phys, physAt, about⟩ := about
  refine ⟨phys, physAt, ?_⟩
  by_cases opens : opensConnection data
  · rw [if_pos opens] at about ⊢
    constructor
    · rcases found : hci.table.hciVirtConHandleGetVirt (le16toh phys) with _ | virt
      · rfl
      · exact absurd (tracks.mem_iff.mpr ⟨virt, ConHandleMap.maps_of_getVirt found⟩) about.1
    · have size := tracks.entries.length_eq
      rw [List.length_map] at size
      rw [size]
      exact about.2.1
  · rw [if_neg opens] at about ⊢
    obtain ⟨virt, maps⟩ := tracks.mem_iff.mp about
    obtain ⟨other, found⟩ := ConHandleMap.hciVirtConHandleGetVirt_some maps
    exact Option.isSome_iff_exists.mpr ⟨other, found⟩

theorem Tracks.opened {after : HciState} {out : List UInt8} (tracks : Tracks hci.table live)
    (distinct : VirtDistinct hci.table)
    (about : ∀ offset ∈ handleFields data, EventAbout hci live data offset)
    (tracked : Tracked hci data after out) (opens : opensConnection data) :
    after.table.Injective := by
  have carried : hciEventHdrSize + 1 ∈ handleFields data := by
    rw [handleFields_event opens.1 (show eventConHandles.lookup _ = some 1 from rfl)]
    exact List.mem_cons_self
  obtain ⟨phys, physAt, new⟩ := about _ carried
  rw [if_pos opens] at new
  have handle : lifecycleHandle hciEventConCompl data = some (le16toh phys) := by
    simp only [lifecycleHandle, physAt]
    exact if_pos opens
  have moved := tracked.mapStep
  generalize after.table = table at moved ⊢
  cases moved with
  | opened opened mapped =>
      rw [handle] at opened
      cases opened
      refine ⟨?_, distinct.connect new.2.2 mapped⟩
      have entries := entries_connect tracks.entries mapped
      exact entries.nodup_iff.mpr (List.nodup_cons.mpr ⟨new.1, tracks.once⟩)
  | closed opened | kept opened =>
      rw [handle] at opened
      cases opened

theorem eventInvertible_iff (tracks : Tracks hci.table live) (distinct : VirtDistinct hci.table)
    (carries : handleFields data ≠ [])
    (about : ∀ offset ∈ handleFields data, EventAbout hci live data offset) :
    EventInvertible hci data ↔
      (LeftAlone data → ∀ offset ∈ handleFields data, ∀ phys, load16 data offset = .ok phys →
        hci.table.Maps (le16toh phys) (le16toh phys)) := by
  have aboutLive : ∀ offset ∈ handleFields data, AboutLive hci data offset :=
    fun offset carried => tracks.aboutLive (about offset carried)
  constructor
  · intro invertible alone offset carried phys physAt
    obtain ⟨after, out, run, fields, -⟩ := invertible
    obtain ⟨same, -, closed⟩ := leftAlone_runs carried alone (aboutLive offset carried)
    rw [same] at run
    cases run
    obtain ⟨word, virt, wordAt, told, maps, -⟩ := fields offset carried
    rw [physAt] at wordAt told
    cases wordAt
    cases told
    rw [if_neg closed] at maps
    rw [le16toh_htole16] at maps ⊢
    exact maps
  · intro coincide
    by_cases alone : LeftAlone data
    · -- The handler returns the event as it came.
      obtain ⟨first, carried⟩ := List.exists_mem_of_ne_nil _ carries
      obtain ⟨run, -, closed⟩ := leftAlone_runs carried alone (aboutLive first carried)
      refine ⟨hci, data, run, ?_, rfl, fun _ _ => rfl⟩
      intro offset member
      obtain ⟨phys, physAt, -⟩ := about offset member
      have maps := coincide alone offset member phys physAt
      refine ⟨phys, le16toh phys, physAt, ?_, ?_⟩
      · rw [htole16_le16toh]
        exact physAt
      · rw [if_neg closed]
        exact ⟨maps, (tracks.injective distinct).getPhys maps⟩
    · obtain ⟨after, out, run, retold⟩ := handleEvent_retells carries aboutLive alone
      have tracked := handleEvent_tracked run
      obtain ⟨length, others⟩ := tracked.others carries
      refine ⟨after, out, run, ?_, length, others⟩
      intro offset member
      obtain ⟨phys, virt, physAt, told, found⟩ := retold offset member
      refine ⟨phys, virt, physAt, told, ?_⟩
      have injective : (if opensConnection data then after else hci).table.Injective := by
        by_cases opens : opensConnection data
        · rw [if_pos opens]
          exact tracks.opened distinct about tracked opens
        · rw [if_neg opens]
          exact tracks.injective distinct
      have maps := ConHandleMap.maps_of_getVirt found
      exact ⟨maps, injective.getPhys maps⟩

end Events

abbrev DisciplinedRun (env : Environment) : World × List UInt16 → Prop :=
  Reachable (observed step followInput)
    (fun state input => Possible state.1 input ∧ disciplined state input) (World.init env, [])

theorem DisciplinedRun.tracks {env : Environment} {s : World} {live : List UInt16}
    (reached : DisciplinedRun env (s, live)) : Tracks s.core.hci.table live := by
  have invariant : Run env anyInput s ∧ Tracks s.core.hci.table live := by
    refine reached.invariant (fun state => Run env anyInput state.1 ∧
      Tracks state.1.core.hci.table state.2) ?_ ?_
    · exact ⟨.start, ⟨by simp [World.init, HciState.init], List.nodup_nil,
        by simp [World.init, HciState.init, ConHandleMap.Narrow]⟩⟩
    · intro before after input holds allowed observing
      obtain ⟨run, tracks⟩ := holds
      obtain ⟨t, stepped, rfl⟩ := observed_ok.mp observing
      exact ⟨.next run ⟨allowed.1, trivial⟩ stepped,
        followInput_tracks stepped tracks run.counted allowed.2⟩
  exact invariant.2

/-- In every run of a disciplined controller the map holds its live connections, each once. Their
packets are translated so that they can be translated back, but for the events that the handler
leaves alone although the two handles differ. -/
theorem handle_map_tracks_connections {env : Environment} {s : World} {live : List UInt16}
    (reached : DisciplinedRun env (s, live)) (distinct : VirtDistinct s.core.hci.table) :
    Tracks s.core.hci.table live ∧
    (∀ phys ∈ live, ∃ virt, s.core.hci.table.Maps phys virt ∧ Invertible s.core.hci phys virt) ∧
    ∀ data, handleFields data ≠ [] →
      (∀ offset ∈ handleFields data, EventAbout s.core.hci live data offset) →
      (EventInvertible s.core.hci data ↔
        (LeftAlone data → ∀ offset ∈ handleFields data, ∀ phys, load16 data offset = .ok phys →
          s.core.hci.table.Maps (le16toh phys) (le16toh phys))) := by
  have tracks := reached.tracks
  refine ⟨tracks, ?_, ?_⟩
  · intro phys member
    obtain ⟨virt, maps⟩ := tracks.mem_iff.mp member
    exact ⟨virt, maps, invertible_of_maps (tracks.injective distinct) tracks.narrow maps⟩
  · intro data carries about
    exact eventInvertible_iff tracks distinct carries about

instance decidableVirtDistinct (table : ConHandleMap) : Decidable (VirtDistinct table) :=
  inferInstanceAs (Decidable (List.Nodup _))

instance decidableNewHandle (live : List UInt16) (data : List UInt8) :
    Decidable (NewHandle live data) :=
  inferInstanceAs (Decidable (∀ phys ∈ lifecycleHandle hciEventConCompl data, _))

instance decidableDisciplined (state : World × List UInt16) :
    (input : Input) → Decidable (disciplined state input)
  | .handDownReply .intr retval _ =>
      inferInstanceAs (Decidable (_ ∧ (0 < retval → NewHandle _ _)))
  | .handDownReply .bulkIn _ _ | .hciCommand _ | .aclOut _ | .bufferRequest _ _ | .timer _ =>
      inferInstanceAs (Decidable (VirtDistinct _))

theorem exists_deviceLive : ∃ s, DisciplinedRun .lenient (s, [1]) ∧
    VirtDistinct s.core.hci.table ∧ s.core.hci.table.hciVirtConHandleGetVirt 1 = some 0 := by
  obtain ⟨⟨s, live⟩, reached, check⟩ : ∃ state, DisciplinedRun .lenient state ∧
      decide (state.2 = [1] ∧ VirtDistinct state.1.core.hci.table ∧
        state.1.core.hci.table.hciVirtConHandleGetVirt 1 = some 0) = true :=
    exists_of_execute deviceConnects (by decide +kernel)
  obtain ⟨same, distinct, mapped⟩ := of_decide_eq_true check
  dsimp only at same
  subst same
  exact ⟨s, reached, distinct, mapped⟩

theorem handle_map_tracks_connections_device : ∃ s, DisciplinedRun .lenient (s, [1]) ∧
    Tracks s.core.hci.table [1] ∧
    ∃ virt, s.core.hci.table.Maps 1 virt ∧ Invertible s.core.hci 1 virt := by
  obtain ⟨s, reached, distinct, -⟩ := exists_deviceLive
  have holds := handle_map_tracks_connections reached distinct
  exact ⟨s, reached, holds.1, holds.2.1 1 List.mem_cons_self⟩

def refusedDisconnection : List UInt8 := [hciEventDisconCompl, 4, 0x0C, 1, 0, 0x13]

/-- Two events about the live connection keep its physical handle. -/
theorem events_about_live_left_alone : ∃ s, DisciplinedRun .lenient (s, [1]) ∧
    VirtDistinct s.core.hci.table ∧
    ∀ data ∈ [rssiReply, refusedDisconnection],
      handleFields data ≠ [] ∧
      (∀ offset ∈ handleFields data, EventAbout s.core.hci [1] data offset) ∧
      ¬EventInvertible s.core.hci data := by
  obtain ⟨s, reached, distinct, mapped⟩ := exists_deviceLive
  refine ⟨s, reached, distinct, ?_⟩
  have kept {data : List UInt8} {field : Nat} (fields : handleFields data = [field])
      (handle : load16 data field = .ok 0x0100) (alone : LeftAlone data)
      (closed : ¬opensConnection data) : handleFields data ≠ [] ∧
        (∀ offset ∈ handleFields data, EventAbout s.core.hci [1] data offset) ∧
        ¬EventInvertible s.core.hci data := by
    have carried : field ∈ handleFields data := by
      rw [fields]
      exact List.mem_cons_self
    refine ⟨List.ne_nil_of_mem carried, ?_, ?_⟩
    · intro offset member
      rw [fields, List.mem_singleton] at member
      subst member
      refine ⟨0x0100, handle, ?_⟩
      rw [if_neg closed]
      decide
    · rintro ⟨after, out, run, retold, -⟩
      have live := aboutLive_one mapped fields handle closed field carried
      obtain ⟨same, -, -⟩ := leftAlone_runs carried alone live
      rw [same] at run
      cases run
      obtain ⟨phys, virt, physAt, told, maps, back⟩ := retold field carried
      rw [handle] at physAt told
      cases physAt
      have reported : virt = 1 := by
        have told := Except.ok.inj told
        rw [← le16toh_htole16 virt, ← told]
        rfl
      rw [if_neg closed, reported] at maps
      have found := (reached.tracks.injective distinct).getVirt maps
      rw [show le16toh 0x0100 = 1 by decide, mapped] at found
      exact absurd (Option.some.inj found) (by decide)
  intro data member
  simp only [List.mem_cons, List.not_mem_nil, or_false] at member
  rcases member with rfl | rfl
  · exact kept rfl rfl (Or.inl rfl) (by decide)
  · exact kept rfl rfl (Or.inr ⟨Or.inr rfl, by decide⟩) (by decide)

end Fakemote
