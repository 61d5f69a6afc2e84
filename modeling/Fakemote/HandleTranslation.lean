import Fakemote.ControllerEvents
import Fakemote.Runs
import Mathlib.Data.List.Nodup

/-! Translation between the physical and the virtual handles, and that it can be undone. -/

namespace Fakemote

open Bytes Program Ledger Transition

namespace ConHandleMap

structure Injective (table : ConHandleMap) : Prop where
  phys : (table.live.map (·.phys)).Nodup
  virt : (table.live.map (·.virt)).Nodup

def Maps (table : ConHandleMap) (phys virt : UInt16) : Prop := ⟨true, virt, phys⟩ ∈ table.live

theorem maps_of_live {table : ConHandleMap} {e : MapEntry} (live : e ∈ table.live) :
    table.Maps e.phys e.virt := by
  have valid := (mem_live.mp live).2
  cases e
  cases valid
  exact live

theorem maps_of_getVirt {table : ConHandleMap} {phys virt : UInt16}
    (found : table.hciVirtConHandleGetVirt phys = some virt) : table.Maps phys virt := by
  obtain ⟨e, live, rfl, rfl⟩ := hciVirtConHandleGetVirt_live found
  exact maps_of_live live

theorem maps_of_getPhys {table : ConHandleMap} {phys virt : UInt16}
    (found : table.hciVirtConHandleGetPhys virt = some phys) : table.Maps phys virt := by
  obtain ⟨e, live, rfl, rfl⟩ := hciVirtConHandleGetPhys_live found
  exact maps_of_live live

theorem Injective.getVirt {table : ConHandleMap} (injective : table.Injective)
    {phys virt : UInt16} (maps : table.Maps phys virt) :
    table.hciVirtConHandleGetVirt phys = some virt := by
  obtain ⟨other, found⟩ := hciVirtConHandleGetVirt_some maps
  have same := List.inj_on_of_nodup_map injective.phys (maps_of_getVirt found) maps rfl
  cases same
  exact found

theorem Injective.getPhys {table : ConHandleMap} (injective : table.Injective)
    {phys virt : UInt16} (maps : table.Maps phys virt) :
    table.hciVirtConHandleGetPhys virt = some phys := by
  obtain ⟨other, found⟩ := hciVirtConHandleGetPhys_some maps
  have same := List.inj_on_of_nodup_map injective.virt (maps_of_getPhys found) maps rfl
  cases same
  exact found

def Narrow (table : ConHandleMap) : Prop :=
  ∀ e ∈ table.live, e.phys.toNat < 4096 ∧ e.virt.toNat < 4096

end ConHandleMap

/-- `out` is `data` with another word at `offset`. -/
def WordReplaced (data out : List UInt8) (offset : Nat) (word : UInt16) : Prop :=
  load16 out offset = .ok word ∧ out.length = data.length ∧
    ∀ index, index ≠ offset → index ≠ offset + 1 → out[index]? = data[index]?

theorem wordReplaced {data out : List UInt8} {offset : Nat} {word : UInt16}
    (stored : store16 data offset word = .ok out) : WordReplaced data out offset word :=
  ⟨load16_store16 stored, Bytes.storeBytes_length (store16_ok.mp stored), fun index first second =>
    Bytes.store16_other (store16_ok.mp stored) index ⟨first, second⟩⟩

theorem store16_runs {data : List UInt8} {offset : Nat} {old : UInt16}
    (loaded : load16 data offset = .ok old) (word : UInt16) :
    ∃ out, store16 data offset word = .ok out ∧ store16 out offset old = .ok data := by
  have found := load16_ok.mp loaded
  obtain ⟨out, stored⟩ := Bytes.store16_some data offset word (Bytes.load16_room found)
  exact ⟨out, store16_ok.mpr stored, store16_ok.mpr (Bytes.store16_restore found stored)⟩

theorem translateToPhys_maps {table : ConHandleMap} (injective : table.Injective)
    {data : List UInt8} {offset : Nat} {word phys : UInt16}
    (loaded : load16 data offset = .ok word) (maps : table.Maps phys (le16toh word)) :
    ∃ out, translateToPhys table data offset = .ok out ∧
      translateToVirt table out offset = .ok data ∧
      WordReplaced data out offset (htole16 phys) := by
  obtain ⟨out, stored, restored⟩ := store16_runs loaded (htole16 phys)
  refine ⟨out, ?_, ?_, wordReplaced stored⟩
  · exact translateToPhys_ok.mpr ⟨word, phys, loaded, injective.getPhys maps, stored⟩
  · refine translateToVirt_ok.mpr ⟨htole16 phys, le16toh word, load16_store16 stored, ?_, ?_⟩
    · rw [le16toh_htole16]
      exact injective.getVirt maps
    · rw [htole16_le16toh]
      exact restored

/-- The header word with another handle and the same flags. -/
def rehandled (word handle : UInt16) : UInt16 :=
  htole16 (hciMkConHandle handle (hciPbFlag (le16toh word)) (hciBcFlag (le16toh word)))

theorem flags_narrow (word : UInt16) :
    (hciPbFlag word).toNat < 4 ∧ (hciBcFlag word).toNat < 4 := by
  have bound := word.toNat_lt
  rw [hciPbFlag_toNat, hciBcFlag_toNat]
  omega

theorem conHandle_rehandled {word handle : UInt16} (narrow : handle.toNat < 4096) :
    hciConHandle (le16toh (rehandled word handle)) = handle := by
  rw [rehandled, le16toh_htole16, hciConHandle_mk narrow]

theorem flags_rehandled (word handle : UInt16) :
    hciPbFlag (le16toh (rehandled word handle)) = hciPbFlag (le16toh word) ∧
      hciBcFlag (le16toh (rehandled word handle)) = hciBcFlag (le16toh word) := by
  have narrow := flags_narrow (le16toh word)
  rw [rehandled, le16toh_htole16, hciPbFlag_mk _ narrow.1, hciBcFlag_mk _ _ narrow.2]
  exact ⟨rfl, rfl⟩

theorem rehandled_rehandled (word handle : UInt16) :
    rehandled (rehandled word handle) (hciConHandle (le16toh word)) = word := by
  obtain ⟨pb, bc⟩ := flags_rehandled word handle
  rw [rehandled, pb, bc, hciMkConHandle_fields, htole16_le16toh]

theorem aclIn_ok {hci : HciState} {data out : List UInt8} :
    hciStateHandleAclDataInResponseFromController hci data = .ok out ↔
      ∃ word virt, load16 data 0 = .ok word ∧
        hci.table.hciVirtConHandleGetVirt (hciConHandle (le16toh word)) = some virt ∧
        store16 data 0 (rehandled word virt) = .ok out := by
  simp only [hciStateHandleAclDataInResponseFromController, except_bind_ok, orFault_ok]
  constructor
  · rintro ⟨word, loaded, virt, found, stored⟩
    exact ⟨word, virt, loaded, found, stored⟩
  · rintro ⟨word, virt, loaded, found, stored⟩
    exact ⟨word, loaded, virt, found, stored⟩

theorem translateAclOut_ok {hci : HciState} {data out : List UInt8} :
    translateAclOut hci data = .ok out ↔
      ∃ word phys, load16 data 0 = .ok word ∧
        hci.table.hciVirtConHandleGetPhys (hciConHandle (le16toh word)) = some phys ∧
        store16 data 0 (rehandled word phys) = .ok out := by
  simp only [translateAclOut, except_bind_ok, orFault_ok]
  constructor
  · rintro ⟨word, loaded, phys, found, stored⟩
    exact ⟨word, phys, loaded, found, stored⟩
  · rintro ⟨word, phys, loaded, found, stored⟩
    exact ⟨word, loaded, phys, found, stored⟩

theorem aclIn_maps {hci : HciState} (injective : hci.table.Injective)
    (narrow : hci.table.Narrow) {data : List UInt8} {word virt : UInt16}
    (loaded : load16 data 0 = .ok word)
    (maps : hci.table.Maps (hciConHandle (le16toh word)) virt) :
    ∃ out, hciStateHandleAclDataInResponseFromController hci data = .ok out ∧
      translateAclOut hci out = .ok data ∧ WordReplaced data out 0 (rehandled word virt) := by
  obtain ⟨out, stored, restored⟩ := store16_runs loaded (rehandled word virt)
  refine ⟨out, ?_, ?_, wordReplaced stored⟩
  · exact aclIn_ok.mpr ⟨word, virt, loaded, injective.getVirt maps, stored⟩
  · refine translateAclOut_ok.mpr ⟨rehandled word virt, hciConHandle (le16toh word),
      load16_store16 stored, ?_, ?_⟩
    · rw [conHandle_rehandled (narrow _ maps).2]
      exact injective.getPhys maps
    · rw [rehandled_rehandled]
      exact restored

theorem translateAclOut_maps {hci : HciState} (injective : hci.table.Injective)
    (narrow : hci.table.Narrow) {data : List UInt8} {word phys : UInt16}
    (loaded : load16 data 0 = .ok word)
    (maps : hci.table.Maps phys (hciConHandle (le16toh word))) :
    ∃ out, translateAclOut hci data = .ok out ∧
      hciStateHandleAclDataInResponseFromController hci out = .ok data ∧
      WordReplaced data out 0 (rehandled word phys) := by
  obtain ⟨out, stored, restored⟩ := store16_runs loaded (rehandled word phys)
  refine ⟨out, ?_, ?_, wordReplaced stored⟩
  · exact translateAclOut_ok.mpr ⟨word, phys, loaded, injective.getPhys maps, stored⟩
  · refine aclIn_ok.mpr ⟨rehandled word phys, hciConHandle (le16toh word),
      load16_store16 stored, ?_, ?_⟩
    · rw [conHandle_rehandled (narrow _ maps).1]
      exact injective.getVirt maps
    · rw [rehandled_rehandled]
      exact restored

theorem handleEvent_translates {hci : HciState} {data : List UInt8} {code : UInt8} {offset : Nat}
    (event : load8 data 0 = .ok code) (listed : translatedEvents.lookup code = some offset) :
    hciStateHandleHciEventFromController hci data =
      (translateToVirt hci.table data (hciEventHdrSize + offset)).map fun out => (hci, out) := by
  have different {other : UInt8} (unlisted : translatedEvents.lookup other = none) :
      code ≠ other := by
    intro same
    rw [same, unlisted] at listed
    cases listed
  unfold hciStateHandleHciEventFromController
  rw [event, except_ok_bind, if_neg (different (by decide)), if_neg (different (by decide)),
    if_neg (different (by decide)), if_neg (different (by decide)), listed]
  dsimp only
  cases translateToVirt hci.table data (hciEventHdrSize + offset) <;> rfl

theorem snoopHciCmd_translates {hci : HciState} {opcode : UInt16} {data : List UInt8}
    (listed : opcode ∈ translatedCommands) :
    snoopHciCmd hci opcode data =
      (translateToPhys hci.table data hciCmdHdrSize).map fun out => (hci, out) := by
  have different {other : UInt16} (unlisted : other ∉ translatedCommands) : opcode ≠ other := by
    intro same
    rw [same] at listed
    exact unlisted listed
  unfold snoopHciCmd
  rw [if_neg (different (by decide)), if_neg (different (by decide)),
    if_neg (different (by decide)), if_neg (different (by decide)),
    if_neg (different (by decide)), if_neg (different (by decide)), if_pos listed]
  cases translateToPhys hci.table data hciCmdHdrSize <;> rfl

theorem translateNumComplPkts_runs {table : ConHandleMap} (count : Nat) :
    ∀ {offset : Nat} {data : List UInt8},
      (∀ i < count, ∃ word, load16 data (offset + 4 * i) = .ok word ∧
        (table.hciVirtConHandleGetVirt (le16toh word)).isSome = true) →
      ∃ out, translateNumComplPkts table count offset data = .ok out := by
  induction count with
  | zero => exact fun _ => ⟨_, rfl⟩
  | succ count ih =>
      intro offset data entries
      obtain ⟨word, loaded, live⟩ := entries 0 (Nat.succ_pos count)
      obtain ⟨virt, found⟩ := Option.isSome_iff_exists.mp live
      obtain ⟨first, stored, -⟩ := store16_runs loaded (htole16 virt)
      have translated : translateToVirt table data offset = .ok first :=
        translateToVirt_ok.mpr ⟨word, virt, loaded, found, stored⟩
      have rest : ∀ i < count, ∃ word, load16 first (offset + 4 + 4 * i) = .ok word ∧
          (table.hciVirtConHandleGetVirt (le16toh word)).isSome = true := by
        intro i bound
        obtain ⟨word, loaded, live⟩ := entries (i + 1) (by omega)
        have position : offset + 4 * (i + 1) = offset + 4 + 4 * i := by omega
        rw [position] at loaded
        refine ⟨word, ?_, live⟩
        rw [load16_ok, Bytes.load16_store16_other (store16_ok.mp stored) (Or.inr (by omega))]
        exact load16_ok.mp loaded
      obtain ⟨out, run⟩ := ih rest
      exact ⟨out, except_bind_ok.mpr ⟨first, translated, run⟩⟩

/-- The events with a `con_handle` field, with its offset in the parameters. -/
def eventConHandles : List (UInt8 × Nat) :=
  [(hciEventConCompl, 1), (hciEventDisconCompl, 1), (hciEventAuthCompl, 1),
   (hciEventEncryptionChange, 1), (hciEventChangeConLinkKeyCompl, 1),
   (hciEventMasterLinkKeyCompl, 1), (hciEventReadRemoteFeaturesCompl, 1),
   (hciEventReadRemoteVerInfoCompl, 1), (hciEventQosSetupCompl, 1), (hciEventFlushOccur, 0),
   (hciEventModeChange, 1), (hciEventMaxSlotChange, 0), (hciEventReadClockOffsetCompl, 1),
   (hciEventConPktTypeChanged, 1), (hciEventQosViolation, 0), (hciEventFlowSpecificationCompl, 1),
   (hciEventReadRemoteExtendedFeatures, 1), (hciEventScoConCompl, 1), (hciEventScoConChanged, 1),
   (hciEventSniffSubrating, 1), (hciEventEncryptionKeyRefresh, 1),
   (hciEventLinkSupervisionToChanged, 0), (hciEventEnhancedFlushCompl, 0)]

/-- The commands whose return parameters are a status and a `con_handle`, and more. -/
def commandsReturningHandle : List UInt16 :=
  [hciCmdReadLmpHandle, hciCmdRoleDiscovery, hciCmdReadLinkPolicySettings,
   hciCmdWriteLinkPolicySettings, hciCmdSniffSubrating, hciCmdFlush, hciCmdReadAutoFlushTimeout,
   hciCmdWriteAutoFlushTimeout, hciCmdReadXmitLevel, hciCmdReadLinkSupervisionTimeout,
   hciCmdWriteLinkSupervisionTimeout, hciCmdReadFailedContactCntr, hciCmdResetFailedContactCntr,
   hciCmdReadLinkQuality, hciCmdReadRssi, hciCmdReadAfhChannelMap, hciCmdReadClock]

/-- The offsets of the handles in an event packet. The return parameters of a command follow the
number of command packets and the opcode. -/
def handleFields (data : List UInt8) : List Nat :=
  match load8 data 0 with
  | .error _ => []
  | .ok code =>
      if code = hciEventCommandCompl then
        match load16 data (hciEventHdrSize + 1) with
        | .ok opcode =>
            if le16toh opcode ∈ commandsReturningHandle then [hciEventHdrSize + 4] else []
        | .error _ => []
      else if code = hciEventNumComplPkts then
        match load8 data hciEventHdrSize with
        | .ok count => (List.range count.toNat).map fun i => hciEventHdrSize + 1 + 4 * i
        | .error _ => []
      else ((eventConHandles.lookup code).map (hciEventHdrSize + ·)).toList

def opensConnection (data : List UInt8) : Prop :=
  load8 data 0 = .ok hciEventConCompl ∧ load8 data hciEventHdrSize = .ok 0

instance decidableOpensConnection (data : List UInt8) : Decidable (opensConnection data) :=
  inferInstanceAs (Decidable (_ ∧ _))

/-- A handle field is about a live connection; the field of a successful Connection Complete event
is about a new one, for which the map has room. -/
def AboutLive (hci : HciState) (data : List UInt8) (offset : Nat) : Prop :=
  ∃ phys, load16 data offset = .ok phys ∧
    if opensConnection data then
      hci.table.hciVirtConHandleGetVirt (le16toh phys) = none ∧
        hci.table.live.length < maxHciConnections
    else (hci.table.hciVirtConHandleGetVirt (le16toh phys)).isSome = true

/-- A handle field holds the virtual handle of its connection after the handler. -/
def Retold (before after : HciState) (data out : List UInt8) (offset : Nat) : Prop :=
  ∃ phys virt, load16 data offset = .ok phys ∧ load16 out offset = .ok (htole16 virt) ∧
    (if opensConnection data then after else before).table.hciVirtConHandleGetVirt (le16toh phys) =
      some virt

/-- Command Complete events, and Connection and Disconnection Complete events with an error. -/
def LeftAlone (data : List UInt8) : Prop :=
  load8 data 0 = .ok hciEventCommandCompl ∨
    (load8 data 0 = .ok hciEventConCompl ∨ load8 data 0 = .ok hciEventDisconCompl) ∧
      load8 data hciEventHdrSize ≠ .ok 0

theorem load8_of_load16 {data : List UInt8} {offset : Nat} {word : UInt16}
    (loaded : load16 data (offset + 1) = .ok word) : ∃ byte, load8 data offset = .ok byte := by
  have room := Bytes.load16_room (load16_ok.mp loaded)
  have inside : offset < data.length := by omega
  exact ⟨data[offset], load8_ok.mpr (List.getElem?_eq_getElem inside)⟩

theorem handleFields_event {data : List UInt8} {code : UInt8} {offset : Nat}
    (event : load8 data 0 = .ok code) (listed : eventConHandles.lookup code = some offset) :
    handleFields data = [hciEventHdrSize + offset] := by
  have different {other : UInt8} (unlisted : eventConHandles.lookup other = none) :
      code ≠ other := by
    intro same
    rw [same, unlisted] at listed
    cases listed
  unfold handleFields
  rw [event]
  dsimp only
  rw [if_neg (different (by decide)), if_neg (different (by decide)), listed]
  rfl

theorem leftAlone_runs {hci : HciState} {data : List UInt8} {offset : Nat}
    (carried : offset ∈ handleFields data) (alone : LeftAlone data)
    (live : AboutLive hci data offset) :
    hciStateHandleHciEventFromController hci data = .ok (hci, data) ∧
      handleFields data = [offset] ∧ ¬opensConnection data := by
  obtain ⟨phys, physAt, -⟩ := live
  rcases alone with command | ⟨lifecycle, failed⟩
  · have other : ¬opensConnection data := by
      rintro ⟨event, -⟩
      rw [command] at event
      cases event
    unfold handleFields at carried ⊢
    rw [command] at carried ⊢
    dsimp only at carried ⊢
    rw [if_pos rfl] at carried ⊢
    split at carried
    · rename_i opcode opcodeAt
      split at carried
      · rename_i listed
        rw [List.mem_singleton.mp carried, if_pos listed]
        refine ⟨?_, rfl, other⟩
        have different : le16toh opcode ≠ hciCmdReadStoredLinkKey := by
          intro same
          rw [same] at listed
          exact absurd listed (by decide)
        unfold hciStateHandleHciEventFromController
        rw [command, except_ok_bind, if_neg (by decide), if_neg (by decide), if_pos rfl]
        unfold handleCommandCompl
        rw [opcodeAt, except_ok_bind]
        exact if_neg different
      · cases carried
    · cases carried
  · have other : ¬opensConnection data := fun opens => failed opens.2
    rcases lifecycle with event | event
    · have fields : handleFields data = [hciEventHdrSize + 1] := handleFields_event event rfl
      rw [fields, List.mem_singleton] at carried
      subst carried
      obtain ⟨status, statusAt⟩ := load8_of_load16 physAt
      have nonzero : status ≠ 0 := by
        rintro rfl
        exact failed statusAt
      refine ⟨?_, fields, other⟩
      unfold hciStateHandleHciEventFromController handleConCompl
      rw [event, except_ok_bind, if_pos rfl, Nat.add_zero, statusAt, except_ok_bind]
      exact if_neg nonzero
    · have fields : handleFields data = [hciEventHdrSize + 1] := handleFields_event event rfl
      rw [fields, List.mem_singleton] at carried
      subst carried
      obtain ⟨status, statusAt⟩ := load8_of_load16 physAt
      have nonzero : status ≠ 0 := by
        rintro rfl
        exact failed statusAt
      refine ⟨?_, fields, other⟩
      unfold hciStateHandleHciEventFromController handleDisconCompl
      rw [event, except_ok_bind, if_neg (by decide), if_pos rfl, Nat.add_zero, statusAt,
        except_ok_bind]
      exact if_neg nonzero

theorem getVirt_mapped {table after : ConHandleMap} {phys virt : UInt16}
    (free : table.hciVirtConHandleGetVirt phys = none)
    (mapped : table.hciVirtConHandleMap phys virt = some after) :
    after.hciVirtConHandleGetVirt phys = some virt := by
  have live := ConHandleMap.hciVirtConHandleMap_live mapped
  have member : ⟨true, virt, phys⟩ ∈ after.live := live.mem_iff.mpr List.mem_cons_self
  obtain ⟨found, lookup⟩ := ConHandleMap.hciVirtConHandleGetVirt_some member
  obtain ⟨e, listed, same, rfl⟩ := ConHandleMap.hciVirtConHandleGetVirt_live lookup
  rcases List.mem_cons.mp (live.mem_iff.mp listed) with new | old
  · rw [lookup, new]
  · obtain ⟨other, exists_⟩ := ConHandleMap.hciVirtConHandleGetVirt_some old
    rw [same, free] at exists_
    cases exists_

theorem handleEvent_retells {hci : HciState} {data : List UInt8} (carries : handleFields data ≠ [])
    (live : ∀ offset ∈ handleFields data, AboutLive hci data offset) (touched : ¬LeftAlone data) :
    ∃ after out, hciStateHandleHciEventFromController hci data = .ok (after, out) ∧
      ∀ offset ∈ handleFields data, Retold hci after data out offset := by
  rcases event : load8 data 0 with fault | code
  · simp [handleFields, event] at carries
  have command : code ≠ hciEventCommandCompl := by
    rintro rfl
    exact touched (Or.inl event)
  by_cases packets : code = hciEventNumComplPkts
  · -- Every entry is translated where it stands.
    subst packets
    have closed : ¬opensConnection data := by
      rintro ⟨opens, -⟩
      rw [event] at opens
      cases opens
    rcases counted : load8 data hciEventHdrSize with fault | count
    · simp [handleFields, event, counted, command] at carries
    have fields : handleFields data =
        (List.range count.toNat).map fun i => hciEventHdrSize + 1 + 4 * i := by
      unfold handleFields
      rw [event]
      dsimp only
      rw [if_neg command, if_pos rfl, counted]
    rw [fields] at live ⊢
    have entries : ∀ i < count.toNat, ∃ word,
        load16 data (hciEventHdrSize + 1 + 4 * i) = .ok word ∧
          (hci.table.hciVirtConHandleGetVirt (le16toh word)).isSome = true := by
      intro i bound
      obtain ⟨word, loaded, found⟩ := live _ (List.mem_map_of_mem (List.mem_range.mpr bound))
      rw [if_neg closed] at found
      exact ⟨word, loaded, found⟩
    obtain ⟨out, run⟩ := translateNumComplPkts_runs _ entries
    refine ⟨hci, out, ?_, ?_⟩
    · unfold hciStateHandleHciEventFromController
      rw [event, except_ok_bind, if_neg (by decide), if_neg (by decide), if_neg (by decide),
        if_pos rfl, counted, except_ok_bind, run, except_ok_bind]
      rfl
    · intro offset member
      obtain ⟨i, bound, rfl⟩ := List.mem_map.mp member
      obtain ⟨phys, virt, physAt, found, told⟩ :=
        (translateNumComplPkts_spec _ run).1 i (List.mem_range.mp bound)
      refine ⟨phys, virt, physAt, told, ?_⟩
      rw [if_neg closed]
      exact found
  rcases listed : eventConHandles.lookup code with _ | offset
  · simp [handleFields, event, command, packets, listed] at carries
  have fields := handleFields_event event listed
  rw [fields] at live ⊢
  simp only [List.mem_singleton, forall_eq] at live ⊢
  obtain ⟨phys, physAt, found⟩ := live
  by_cases opens : opensConnection data
  · have code_ : code = hciEventConCompl := Except.ok.inj (event.symm.trans opens.1)
    subst code_
    cases listed
    rw [if_pos opens] at found
    obtain ⟨table, mapped⟩ := ConHandleMap.hciVirtConHandleMap_some found.2 (le16toh phys)
      (hciConHandleVirtAlloc hci).1
    obtain ⟨out, stored, -⟩ := store16_runs physAt (htole16 (hciConHandleVirtAlloc hci).1)
    refine ⟨_, out, conCompl_runs opens.1 opens.2 physAt mapped stored, phys,
      (hciConHandleVirtAlloc hci).1, physAt, load16_store16 stored, ?_⟩
    rw [if_pos opens]
    exact getVirt_mapped found.1 mapped
  rw [if_neg opens] at found
  obtain ⟨virt, lookup⟩ := Option.isSome_iff_exists.mp found
  obtain ⟨out, stored, -⟩ := store16_runs physAt (htole16 virt)
  have retold (after : HciState) : Retold hci after data out (hciEventHdrSize + offset) :=
    ⟨phys, virt, physAt, load16_store16 stored, by rw [if_neg opens]; exact lookup⟩
  have connects : code ≠ hciEventConCompl := by
    rintro rfl
    by_cases status : load8 data hciEventHdrSize = .ok 0
    · exact opens ⟨event, status⟩
    · exact touched (Or.inr ⟨Or.inl event, status⟩)
  by_cases disconnects : code = hciEventDisconCompl
  · subst disconnects
    cases listed
    have status : load8 data hciEventHdrSize = .ok 0 := by
      by_contra failed
      exact touched (Or.inr ⟨Or.inr event, failed⟩)
    obtain ⟨e, entry, -, rfl⟩ := ConHandleMap.hciVirtConHandleGetVirt_live lookup
    obtain ⟨table, unmapped⟩ := ConHandleMap.hciVirtConHandleUnmapVirt_some entry
    exact ⟨_, out, disconCompl_runs event status physAt lookup unmapped stored, retold _⟩
  · have translated : translatedEvents.lookup code = some offset := by
      rw [← listed, eventConHandles, List.lookup_cons, List.lookup_cons,
        beq_false_of_ne connects, beq_false_of_ne disconnects]
      rfl
    refine ⟨hci, out, ?_, retold hci⟩
    rw [handleEvent_translates event translated,
      translateToVirt_ok.mpr ⟨phys, virt, physAt, lookup, stored⟩]
    rfl

/-- Every handle field of an event about live connections holds the virtual handle after the
handler, unless the handler leaves the event alone and the two handles differ. -/
theorem handles_retold_iff (hci : HciState) (data : List UInt8) (carries : handleFields data ≠ [])
    (live : ∀ offset ∈ handleFields data, AboutLive hci data offset) :
    (∃ after out, hciStateHandleHciEventFromController hci data = .ok (after, out) ∧
      ∀ offset ∈ handleFields data, Retold hci after data out offset) ↔
    (LeftAlone data → ∀ offset ∈ handleFields data, ∀ phys, load16 data offset = .ok phys →
      hci.table.hciVirtConHandleGetVirt (le16toh phys) = some (le16toh phys)) := by
  constructor
  · rintro ⟨after, out, run, retold⟩ alone offset carried phys physAt
    obtain ⟨same, -, closed⟩ := leftAlone_runs carried alone (live offset carried)
    rw [same] at run
    cases run
    obtain ⟨word, virt, wordAt, told, found⟩ := retold offset carried
    rw [physAt] at wordAt told
    cases wordAt
    cases told
    rw [if_neg closed] at found
    rw [found, le16toh_htole16]
  · intro coincide
    by_cases alone : LeftAlone data
    · obtain ⟨offset, carried⟩ := List.exists_mem_of_ne_nil _ carries
      obtain ⟨run, fields, closed⟩ := leftAlone_runs carried alone (live offset carried)
      refine ⟨hci, data, run, ?_⟩
      intro other member
      obtain ⟨phys, physAt, -⟩ := live other member
      have found := coincide alone other member phys physAt
      refine ⟨phys, le16toh phys, physAt, ?_, ?_⟩
      · rw [htole16_le16toh]
        exact physAt
      · rw [if_neg closed]
        exact found
    · exact handleEvent_retells carries live alone

def deviceConnects : List Input :=
  [.bufferRequest .intr ⟨0, 0, 64⟩,
   .handDownReply .intr 13 [hciEventConCompl, 11, 0, 1, 0, 0, 0, 0, 0, 0, 0, 1, 0]]

theorem exists_deviceConnected : ∃ s, Run .lenient anyInput s ∧
    s.core.hci.table.hciVirtConHandleGetVirt 1 = some 0 := by
  obtain ⟨s, reached, check⟩ : ∃ s, Run .lenient anyInput s ∧
      decide (s.core.hci.table.hciVirtConHandleGetVirt 1 = some 0) = true :=
    exists_of_execute deviceConnects (by decide +kernel)
  exact ⟨s, reached, of_decide_eq_true check⟩

theorem aboutLive_one {hci : HciState} {data : List UInt8} {field : Nat}
    (mapped : hci.table.hciVirtConHandleGetVirt 1 = some 0) (fields : handleFields data = [field])
    (handle : load16 data field = .ok 0x0100) (closed : ¬opensConnection data) :
    ∀ offset ∈ handleFields data, AboutLive hci data offset := by
  intro offset carried
  rw [fields, List.mem_singleton] at carried
  subst carried
  refine ⟨0x0100, handle, ?_⟩
  rw [if_neg closed]
  exact Option.isSome_iff_exists.mpr ⟨0, mapped⟩

/-- An Authentication Complete event. -/
theorem handles_retold_iff_authentication :
    ∃ s, Run .lenient anyInput s ∧ ∃ after out,
      hciStateHandleHciEventFromController s.core.hci [hciEventAuthCompl, 3, 0, 1, 0] =
        .ok (after, out) ∧
      ∀ offset ∈ handleFields [hciEventAuthCompl, 3, 0, 1, 0],
        Retold s.core.hci after [hciEventAuthCompl, 3, 0, 1, 0] out offset := by
  obtain ⟨s, reached, mapped⟩ := exists_deviceConnected
  have retold := handles_retold_iff s.core.hci [hciEventAuthCompl, 3, 0, 1, 0] (by decide)
    (aboutLive_one mapped rfl rfl (by decide))
  refine ⟨s, reached, retold.mpr ?_⟩
  rintro (command | ⟨connects | disconnects, -⟩)
  · exact absurd command (by decide)
  · exact absurd connects (by decide)
  · exact absurd disconnects (by decide)

/-- The reply to Read RSSI for the device: its handle is the physical one. -/
def rssiReply : List UInt8 := [hciEventCommandCompl, 7, 1, 0x05, 0x14, 0, 1, 0, 0]

theorem command_complete_keeps_physical_handle :
    ∃ s, Run .lenient anyInput s ∧
      (∀ offset ∈ handleFields rssiReply, AboutLive s.core.hci rssiReply offset) ∧
      ¬∃ after out, hciStateHandleHciEventFromController s.core.hci rssiReply = .ok (after, out) ∧
        ∀ offset ∈ handleFields rssiReply, Retold s.core.hci after rssiReply out offset := by
  obtain ⟨s, reached, mapped⟩ := exists_deviceConnected
  have live := aboutLive_one mapped (show handleFields rssiReply = [6] from rfl) rfl (by decide)
  have carried : 6 ∈ handleFields rssiReply := by decide
  refine ⟨s, reached, live, ?_⟩
  rintro ⟨after, out, run, retold⟩
  obtain ⟨same, -, closed⟩ := leftAlone_runs carried (Or.inl rfl) (live 6 carried)
  rw [same] at run
  cases run
  obtain ⟨phys, virt, physAt, told, found⟩ := retold 6 carried
  have handle : phys = 0x0100 := Except.ok.inj (physAt.symm.trans rfl)
  have reported : htole16 virt = 0x0100 := Except.ok.inj (told.symm.trans rfl)
  rw [if_neg closed, handle, show le16toh 0x0100 = 1 by decide, mapped] at found
  cases found
  exact absurd reported (by decide)

end Fakemote
