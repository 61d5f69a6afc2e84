import Fakemote.HciState

/-! The handle map as a set of live entries, and what the handler of the controller's events does
to it and to the packet. -/

namespace Fakemote

open Bytes FirstMatch

namespace ConHandleMap

theorem mem_live {table : ConHandleMap} {e : MapEntry} :
    e ∈ table.live ↔ e ∈ table.entries ∧ e.valid = true := by
  simp [live]

@[simp] theorem live_empty : empty.live = [] := by
  simp [live, empty]

@[simp] theorem live_invalidate (table : ConHandleMap) : table.invalidate.live = [] := by
  simp [live, invalidate]

theorem hciVirtConHandleMap_live {table after : ConHandleMap} {phys virt : UInt16}
    (run : table.hciVirtConHandleMap phys virt = some after) :
    after.live.Perm (⟨true, virt, phys⟩ :: table.live) := by
  unfold hciVirtConHandleMap at run
  split at run
  · rename_i free
    cases run
    obtain ⟨_, -, -, perm⟩ := filter_replaceFirst_add (q := MapEntry.valid)
      (f := fun _ => ⟨true, virt, phys⟩) free (fun _ => rfl)
    exact perm
  · cases run

theorem hciVirtConHandleUnmapVirt_live {table after : ConHandleMap} {virt : UInt16}
    (run : table.hciVirtConHandleUnmapVirt virt = some after) :
    ∃ e, e.virt = virt ∧ table.live.Perm (e :: after.live) := by
  unfold hciVirtConHandleUnmapVirt at run
  split at run
  · rename_i matched
    cases run
    obtain ⟨e, found, perm⟩ := filter_replaceFirst_remove (q := MapEntry.valid)
      (r := fun e => e.virt == virt) (f := fun e => { e with valid := false }) matched
      (fun _ => rfl)
    have holds := List.find?_some found
    simp only [Bool.and_eq_true, beq_iff_eq] at holds
    exact ⟨e, holds.2, perm⟩
  · cases run

theorem hciVirtConHandleGetVirt_live {table : ConHandleMap} {phys virt : UInt16}
    (found : table.hciVirtConHandleGetVirt phys = some virt) :
    ∃ e ∈ table.live, e.phys = phys ∧ e.virt = virt := by
  obtain ⟨e, first, rfl⟩ := Option.map_eq_some_iff.mp found
  have holds := List.find?_some first
  simp only [Bool.and_eq_true, beq_iff_eq] at holds
  exact ⟨e, mem_live.mpr ⟨List.mem_of_find?_eq_some first, holds.1⟩, holds.2, rfl⟩

theorem hciVirtConHandleGetPhys_live {table : ConHandleMap} {virt phys : UInt16}
    (found : table.hciVirtConHandleGetPhys virt = some phys) :
    ∃ e ∈ table.live, e.virt = virt ∧ e.phys = phys := by
  obtain ⟨e, first, rfl⟩ := Option.map_eq_some_iff.mp found
  have holds := List.find?_some first
  simp only [Bool.and_eq_true, beq_iff_eq] at holds
  exact ⟨e, mem_live.mpr ⟨List.mem_of_find?_eq_some first, holds.1⟩, holds.2, rfl⟩

theorem hciVirtConHandleGetVirt_some {table : ConHandleMap} {e : MapEntry}
    (member : e ∈ table.live) : ∃ virt, table.hciVirtConHandleGetVirt e.phys = some virt := by
  rcases found : table.hciVirtConHandleGetVirt e.phys with _ | virt
  · have missed := List.find?_eq_none.mp (Option.map_eq_none_iff.mp found) e
      (mem_live.mp member).1
    simp [(mem_live.mp member).2] at missed
  · exact ⟨virt, rfl⟩

theorem hciVirtConHandleGetPhys_some {table : ConHandleMap} {e : MapEntry}
    (member : e ∈ table.live) : ∃ phys, table.hciVirtConHandleGetPhys e.virt = some phys := by
  rcases found : table.hciVirtConHandleGetPhys e.virt with _ | phys
  · have missed := List.find?_eq_none.mp (Option.map_eq_none_iff.mp found) e
      (mem_live.mp member).1
    simp [(mem_live.mp member).2] at missed
  · exact ⟨phys, rfl⟩

theorem hciVirtConHandleMap_some {table : ConHandleMap} (few : table.live.length < maxHciConnections)
    (phys virt : UInt16) : ∃ after, table.hciVirtConHandleMap phys virt = some after := by
  have free : (table.entries.any fun e => !e.valid) = true := by
    by_contra full
    simp only [List.any_eq_true, Bool.not_eq_true', not_exists, not_and, Bool.not_eq_false] at full
    have all : table.live = table.entries := List.filter_eq_self.mpr full
    rw [all, table.size] at few
    exact Nat.lt_irrefl _ few
  exact ⟨_, if_pos free⟩

theorem hciVirtConHandleUnmapVirt_some {table : ConHandleMap} {e : MapEntry}
    (member : e ∈ table.live) : ∃ after, table.hciVirtConHandleUnmapVirt e.virt = some after := by
  have matched : (table.entries.any fun entry => entry.valid && entry.virt == e.virt) = true := by
    obtain ⟨listed, valid⟩ := mem_live.mp member
    exact List.any_eq_true.mpr ⟨e, listed, by simp [valid]⟩
  exact ⟨_, if_pos matched⟩

end ConHandleMap

theorem load16_ok {buffer : List UInt8} {offset : Nat} {word : UInt16} :
    load16 buffer offset = .ok word ↔ Bytes.load16 buffer offset = some word :=
  orFault_ok

theorem load8_ok {buffer : List UInt8} {offset : Nat} {byte : UInt8} :
    load8 buffer offset = .ok byte ↔ buffer[offset]? = some byte :=
  orFault_ok

theorem store16_ok {buffer result : List UInt8} {offset : Nat} {word : UInt16} :
    store16 buffer offset word = .ok result ↔ Bytes.store16 buffer offset word = some result :=
  orFault_ok

theorem except_bind_ok {ε α β : Type} {x : Except ε α} {f : α → Except ε β} {b : β} :
    (x >>= f) = .ok b ↔ ∃ a, x = .ok a ∧ f a = .ok b := by
  cases x <;> simp [bind, Except.bind]

theorem translateToVirt_ok {table : ConHandleMap} {data out : List UInt8} {offset : Nat} :
    translateToVirt table data offset = .ok out ↔ ∃ phys virt, load16 data offset = .ok phys ∧
      table.hciVirtConHandleGetVirt (le16toh phys) = some virt ∧
      store16 data offset (htole16 virt) = .ok out := by
  simp only [translateToVirt, except_bind_ok, orFault_ok]
  constructor
  · rintro ⟨phys, loaded, virt, found, stored⟩
    exact ⟨phys, virt, loaded, found, stored⟩
  · rintro ⟨phys, virt, loaded, found, stored⟩
    exact ⟨phys, loaded, virt, found, stored⟩

theorem translateToPhys_ok {table : ConHandleMap} {data out : List UInt8} {offset : Nat} :
    translateToPhys table data offset = .ok out ↔ ∃ virt phys, load16 data offset = .ok virt ∧
      table.hciVirtConHandleGetPhys (le16toh virt) = some phys ∧
      store16 data offset (htole16 phys) = .ok out := by
  simp only [translateToPhys, except_bind_ok, orFault_ok]
  constructor
  · rintro ⟨virt, loaded, phys, found, stored⟩
    exact ⟨virt, phys, loaded, found, stored⟩
  · rintro ⟨virt, phys, loaded, found, stored⟩
    exact ⟨virt, loaded, phys, found, stored⟩

inductive Tracked (hci : HciState) (data : List UInt8) : HciState → List UInt8 → Prop
  | connected {phys : UInt16} {table : ConHandleMap} {out : List UInt8} :
      load8 data 0 = .ok hciEventConCompl → load8 data hciEventHdrSize = .ok 0 →
      load16 data (hciEventHdrSize + 1) = .ok phys →
      hci.table.hciVirtConHandleMap (le16toh phys) (hciConHandleVirtAlloc hci).1 = some table →
      store16 data (hciEventHdrSize + 1) (htole16 (hciConHandleVirtAlloc hci).1) = .ok out →
      Tracked hci data { (hciConHandleVirtAlloc hci).2 with table := table } out
  | disconnected {phys virt : UInt16} {table : ConHandleMap} {out : List UInt8} :
      load8 data 0 = .ok hciEventDisconCompl → load8 data hciEventHdrSize = .ok 0 →
      load16 data (hciEventHdrSize + 1) = .ok phys →
      hci.table.hciVirtConHandleGetVirt (le16toh phys) = some virt →
      hci.table.hciVirtConHandleUnmapVirt virt = some table →
      store16 data (hciEventHdrSize + 1) (htole16 virt) = .ok out →
      Tracked hci data { hci with table := table } out
  | failed {code status : UInt8} : load8 data 0 = .ok code →
      code = hciEventConCompl ∨ code = hciEventDisconCompl →
      load8 data hciEventHdrSize = .ok status → status ≠ 0 → Tracked hci data hci data
  | commandCompl {out : List UInt8} : load8 data 0 = .ok hciEventCommandCompl →
      handleCommandCompl hci data = .ok (hci, out) → Tracked hci data hci out
  | numComplPkts {count : UInt8} {out : List UInt8} : load8 data 0 = .ok hciEventNumComplPkts →
      load8 data hciEventHdrSize = .ok count →
      translateNumComplPkts hci.table count.toNat (hciEventHdrSize + 1) data = .ok out →
      Tracked hci data hci out
  | translated {code : UInt8} {offset : Nat} {out : List UInt8} : load8 data 0 = .ok code →
      translatedEvents.lookup code = some offset →
      translateToVirt hci.table data (hciEventHdrSize + offset) = .ok out →
      Tracked hci data hci out
  | passed {code : UInt8} : load8 data 0 = .ok code → code ≠ hciEventConCompl →
      code ≠ hciEventDisconCompl → code ≠ hciEventCommandCompl → code ≠ hciEventNumComplPkts →
      translatedEvents.lookup code = none → Tracked hci data hci data

theorem handleCommandCompl_hci {hci after : HciState} {data out : List UInt8}
    (run : handleCommandCompl hci data = .ok (after, out)) : after = hci := by
  obtain ⟨opcode, -, run⟩ := except_bind_ok.mp run
  dsimp only at run
  split at run
  · obtain ⟨maxKeys, -, run⟩ := except_bind_ok.mp run
    obtain ⟨keysRead, -, run⟩ := except_bind_ok.mp run
    split at run
    · obtain ⟨first, -, run⟩ := except_bind_ok.mp run
      obtain ⟨second, -, run⟩ := except_bind_ok.mp run
      cases run
      rfl
    · cases run
      rfl
  · cases run
    rfl

theorem handleEvent_tracked {hci after : HciState} {data out : List UInt8}
    (run : hciStateHandleHciEventFromController hci data = .ok (after, out)) :
    Tracked hci data after out := by
  obtain ⟨code, event, run⟩ := except_bind_ok.mp run
  split at run
  · rename_i same
    subst same
    obtain ⟨status, statusAt, run⟩ := except_bind_ok.mp run
    split at run
    · rename_i success
      subst success
      obtain ⟨phys, physAt, run⟩ := except_bind_ok.mp run
      obtain ⟨table, mapped, run⟩ := except_bind_ok.mp run
      obtain ⟨bytes, stored, run⟩ := except_bind_ok.mp run
      cases run
      exact .connected event statusAt physAt (orFault_ok.mp mapped) stored
    · rename_i failure
      cases run
      exact .failed event (Or.inl rfl) statusAt failure
  · split at run
    · rename_i same
      subst same
      obtain ⟨status, statusAt, run⟩ := except_bind_ok.mp run
      split at run
      · rename_i success
        subst success
        obtain ⟨phys, physAt, run⟩ := except_bind_ok.mp run
        obtain ⟨virt, found, run⟩ := except_bind_ok.mp run
        obtain ⟨table, unmapped, run⟩ := except_bind_ok.mp run
        obtain ⟨bytes, stored, run⟩ := except_bind_ok.mp run
        cases run
        exact .disconnected event statusAt physAt (orFault_ok.mp found) (orFault_ok.mp unmapped)
          stored
      · rename_i failure
        cases run
        exact .failed event (Or.inr rfl) statusAt failure
    · split at run
      · rename_i same
        subst same
        have kept := handleCommandCompl_hci run
        subst kept
        exact .commandCompl event run
      · split at run
        · rename_i same
          subst same
          obtain ⟨count, countAt, run⟩ := except_bind_ok.mp run
          obtain ⟨bytes, translated, run⟩ := except_bind_ok.mp run
          cases run
          exact .numComplPkts event countAt translated
        · rename_i con discon command packets
          split at run
          · rename_i offset listed
            obtain ⟨bytes, translated, run⟩ := except_bind_ok.mp run
            cases run
            exact .translated event listed translated
          · rename_i unlisted
            cases run
            exact .passed event con discon command packets unlisted

theorem load8_store16 {buffer result : List UInt8} {offset index : Nat} {word : UInt16}
    (stored : store16 buffer offset word = .ok result)
    (other : index ≠ offset ∧ index ≠ offset + 1) : load8 result index = load8 buffer index := by
  simp only [load8, Bytes.load8, Bytes.store16_other (store16_ok.mp stored) index other]

theorem load16_store16 {buffer result : List UInt8} {offset : Nat} {word : UInt16}
    (stored : store16 buffer offset word = .ok result) : load16 result offset = .ok word :=
  load16_ok.mpr (Bytes.load16_store16 (store16_ok.mp stored))

theorem translateNumComplPkts_spec {table : ConHandleMap} (count : Nat) :
    ∀ {offset : Nat} {data out : List UInt8},
      translateNumComplPkts table count offset data = .ok out →
      (∀ i < count, ∃ phys virt, load16 data (offset + 4 * i) = .ok phys ∧
        table.hciVirtConHandleGetVirt (le16toh phys) = some virt ∧
        load16 out (offset + 4 * i) = .ok (htole16 virt)) ∧
      ∀ index, (∀ i < count, index ≠ offset + 4 * i ∧ index ≠ offset + 4 * i + 1) →
        out[index]? = data[index]? := by
  induction count with
  | zero =>
      intro offset data out run
      cases run
      exact ⟨fun i none => absurd none (Nat.not_lt_zero i), fun _ _ => rfl⟩
  | succ count ih =>
      intro offset data out run
      obtain ⟨first, translated, rest⟩ := except_bind_ok.mp run
      obtain ⟨phys, virt, physAt, found, stored⟩ := translateToVirt_ok.mp translated
      obtain ⟨entries, others⟩ := ih rest
      have word := Bytes.load16_store16 (store16_ok.mp stored)
      -- The later entries are past the word that was stored.
      have beyond (index : Nat) (low : index < offset + 4) : out[index]? = first[index]? :=
        others index fun i _ => by omega
      constructor
      · intro i bound
        rcases Nat.eq_zero_or_pos i with rfl | positive
        · refine ⟨phys, virt, physAt, found, load16_ok.mpr ?_⟩
          rw [← word]
          simp only [Bytes.load16, Nat.mul_zero, Nat.add_zero]
          rw [beyond offset (by omega), beyond (offset + 1) (by omega)]
        · obtain ⟨entryPhys, entryVirt, at_, entryFound, result⟩ := entries (i - 1) (by omega)
          have position : offset + 4 + 4 * (i - 1) = offset + 4 * i := by omega
          rw [position] at at_ result
          refine ⟨entryPhys, entryVirt, ?_, entryFound, result⟩
          rw [load16_ok] at at_ ⊢
          rw [← at_]
          exact (Bytes.load16_store16_other (store16_ok.mp stored) (Or.inr (by omega))).symm
      · intro index outside
        rw [others index fun i bound => ?_]
        · exact Bytes.store16_other (store16_ok.mp stored) index (by simpa using outside 0 (by omega))
        · have later := outside (i + 1) (by omega)
          omega

theorem handleCommandCompl_code {hci after : HciState} {data out : List UInt8}
    (run : handleCommandCompl hci data = .ok (after, out)) : load8 out 0 = load8 data 0 := by
  obtain ⟨opcode, -, run⟩ := except_bind_ok.mp run
  dsimp only at run
  split at run
  · obtain ⟨maxKeys, -, run⟩ := except_bind_ok.mp run
    obtain ⟨keysRead, -, run⟩ := except_bind_ok.mp run
    split at run
    · obtain ⟨first, one, run⟩ := except_bind_ok.mp run
      obtain ⟨second, two, run⟩ := except_bind_ok.mp run
      cases run
      rw [load8_store16 two (by decide), load8_store16 one (by decide)]
    · cases run
      rfl
  · cases run
    rfl

theorem Tracked.code {hci after : HciState} {data out : List UInt8}
    (tracked : Tracked hci data after out) : load8 out 0 = load8 data 0 := by
  cases tracked with
  | connected event status physAt mapped stored => exact load8_store16 stored (by decide)
  | disconnected event status physAt found unmapped stored =>
      exact load8_store16 stored (by decide)
  | failed => rfl
  | commandCompl event run => exact handleCommandCompl_code run
  | numComplPkts event countAt run =>
      have same := (translateNumComplPkts_spec _ run).2 0 (by
        intro i _
        simp only [hciEventHdrSize]
        omega)
      simp only [load8, Bytes.load8, same]
  | translated event listed run =>
      obtain ⟨phys, virt, -, -, stored⟩ := translateToVirt_ok.mp run
      exact load8_store16 stored (by simp only [hciEventHdrSize]; omega)
  | passed => rfl

theorem except_ok_bind {ε α β : Type} (a : α) (f : α → Except ε β) :
    ((.ok a : Except ε α) >>= f) = f a := rfl

@[simp] theorem alloc_table (hci : HciState) : (hciConHandleVirtAlloc hci).2.table = hci.table :=
  rfl

theorem conCompl_runs {hci : HciState} {data out : List UInt8} {phys : UInt16}
    {table : ConHandleMap} (event : load8 data 0 = .ok hciEventConCompl)
    (status : load8 data hciEventHdrSize = .ok 0)
    (physAt : load16 data (hciEventHdrSize + 1) = .ok phys)
    (mapped : hci.table.hciVirtConHandleMap (le16toh phys) (hciConHandleVirtAlloc hci).1 =
      some table)
    (stored : store16 data (hciEventHdrSize + 1) (htole16 (hciConHandleVirtAlloc hci).1) =
      .ok out) :
    hciStateHandleHciEventFromController hci data =
      .ok ({ (hciConHandleVirtAlloc hci).2 with table := table }, out) := by
  simp only [hciStateHandleHciEventFromController, handleConCompl, event, status, physAt,
    Nat.add_zero, except_ok_bind, if_true, alloc_table, orFault_ok.mpr mapped, stored]
  rfl

theorem disconCompl_runs {hci : HciState} {data out : List UInt8} {phys virt : UInt16}
    {table : ConHandleMap} (event : load8 data 0 = .ok hciEventDisconCompl)
    (status : load8 data hciEventHdrSize = .ok 0)
    (physAt : load16 data (hciEventHdrSize + 1) = .ok phys)
    (found : hci.table.hciVirtConHandleGetVirt (le16toh phys) = some virt)
    (unmapped : hci.table.hciVirtConHandleUnmapVirt virt = some table)
    (stored : store16 data (hciEventHdrSize + 1) (htole16 virt) = .ok out) :
    hciStateHandleHciEventFromController hci data = .ok ({ hci with table := table }, out) := by
  have other : hciEventDisconCompl ≠ hciEventConCompl := by decide
  simp only [hciStateHandleHciEventFromController, handleDisconCompl, event, status, physAt,
    Nat.add_zero, except_ok_bind, if_true, if_neg other, orFault_ok.mpr found,
    orFault_ok.mpr unmapped, stored]
  rfl

end Fakemote
