import Fakemote.FakeWiimoteMgr
import Fakemote.Library.GreedyMatch

/-! `patch_conf_bt_dinf` of `main.c`: places for the fake Wiimotes in the table of paired devices,
`BT.DINF` of SYSCONF. -/

namespace Fakemote

open GreedyMatch

def confPadMaxRegistered : Nat := 10

abbrev PadName := { bytes : List UInt8 // bytes.length = 64 }

/-- The address is stored back to front. -/
structure ConfPadDevice where
  bdaddr : BdAddr
  name : PadName
  deriving DecidableEq

@[ext] structure ConfPadsSetting where
  numRegistered : UInt8
  registered : List ConfPadDevice
  active : List ConfPadDevice
  balanceBoard : ConfPadDevice
  unknown : ConfPadDevice
  registered_length : registered.length = confPadMaxRegistered

def baswap (bdaddr : BdAddr) : BdAddr :=
  ⟨bdaddr.val.reverse, by rw [List.length_reverse, bdaddr.property]⟩

@[simp] theorem baswap_baswap (bdaddr : BdAddr) : baswap (baswap bdaddr) = bdaddr :=
  Subtype.ext (List.reverse_reverse bdaddr.val)

/-- `FAKE_WIIMOTE_BDADDR` -/
def fakeBdaddr (i : Nat) : BdAddr := ⟨[0xFE, 0xED, 0xBA, 0xDF, 0x00, 0xD0 + UInt8.ofNat i], rfl⟩

/-- "Nintendo RVL-CNT-01 (Fake Wiimote %d)", with its NUL. -/
def fakePadName (i : Nat) : List UInt8 :=
  [0x4E, 0x69, 0x6E, 0x74, 0x65, 0x6E, 0x64, 0x6F, 0x20, 0x52, 0x56, 0x4C, 0x2D, 0x43, 0x4E, 0x54,
   0x2D, 0x30, 0x31, 0x20, 0x28, 0x46, 0x61, 0x6B, 0x65, 0x20, 0x57, 0x69, 0x69, 0x6D, 0x6F, 0x74,
   0x65, 0x20, 0x30 + UInt8.ofNat i, 0x29, 0x00]

/-- The name ends with a NUL, and what stood behind it stays. -/
def fakeDevice (i : Nat) (device : ConfPadDevice) : ConfPadDevice where
  bdaddr := baswap (fakeBdaddr i)
  name := ⟨fakePadName i ++ device.name.val.drop (fakePadName i).length, by
    rw [List.length_append, List.length_drop, device.name.property]
    rfl⟩

/-- The writes of the second loop, from entry `start` on. -/
def writeFakes (start : Nat) : (count index : Nat) → List ConfPadDevice → List ConfPadDevice
  | 0, _, registered => registered
  | count + 1, index, registered =>
      writeFakes start count (index + 1) (registered.modify (start + index) (fakeDevice index))

theorem writeFakes_length (start count : Nat) : ∀ index registered,
    (writeFakes start count index registered).length = registered.length := by
  induction count with
  | zero =>
      intro index registered
      rfl
  | succ count ih =>
      intro index registered
      rw [writeFakes, ih, List.length_modify]

def ConfPadsSetting.entries (pads : ConfPadsSetting) : List ConfPadDevice :=
  pads.registered.take pads.numRegistered.toNat

def ConfPadsSetting.addresses (pads : ConfPadsSetting) : List BdAddr :=
  pads.entries.map fun device => baswap device.bdaddr

inductive PatchResult
  | ok
  | einval
  deriving DecidableEq, Repr

/-- The fake Wiimotes get the entries from the end of the table on, or the last two places. -/
def ConfPadsSetting.addFakes (pads : ConfPadsSetting) (count : Nat) : ConfPadsSetting :=
  let start := min pads.numRegistered.toNat (confPadMaxRegistered - 2)
  { pads with
    registered := writeFakes start count 0 pads.registered
    numRegistered := UInt8.ofNat (start + count)
    registered_length := (writeFakes_length start count 0 _).trans pads.registered_length }

/-- Only a table of the right size is looked at. `written` tells whether SYSCONF could be written
whole; the table that comes back is what the buffer holds in the end. -/
def patchConfBtDinf (confGet : Option ConfPadsSetting) (written : Bool) :
    Except Fault (PatchResult × Option ConfPadsSetting) :=
  match confGet with
  | none => .ok (.einval, none)
  | some pads =>
      if confPadMaxRegistered < pads.numRegistered.toNat then .error .outOfBounds
      else
        let pairedCount := countFrom fakeBdaddr 0 pads.addresses
        if 2 ≤ pairedCount then .ok (.ok, some pads)
        else .ok (if written then .ok else .einval, some (pads.addFakes (2 - pairedCount)))

theorem fakeDevice_again (i : Nat) (device : ConfPadDevice) :
    fakeDevice i (fakeDevice i device) = fakeDevice i device := by
  unfold fakeDevice
  congr 2

theorem writeFakes_getElem (start count : Nat) : ∀ index registered j,
    (writeFakes start count index registered)[j]? =
      if start + index ≤ j ∧ j < start + index + count then
        (registered[j]?).map (fakeDevice (j - start))
      else registered[j]? := by
  induction count with
  | zero =>
      intro index registered j
      rw [if_neg (by omega)]
      rfl
  | succ count ih =>
      intro index registered j
      rw [writeFakes, ih, List.getElem?_modify]
      by_cases here : start + index = j
      · rw [if_neg (by omega), if_pos (by omega), ← here, Nat.add_sub_cancel_left]
        cases registered[start + index]? with
        | none => rfl
        | some device => exact congrArg some (if_pos rfl)
      · have same : (fun device => if start + index = j then fakeDevice index device else device)
            <$> registered[j]? = registered[j]? := by
          cases registered[j]? with
          | none => rfl
          | some device => exact congrArg some (if_neg here)
        rw [same]
        by_cases later : start + (index + 1) ≤ j ∧ j < start + (index + 1) + count
        · rw [if_pos later, if_pos (by omega)]
        · rw [if_neg later, if_neg (by omega)]

theorem writeFakes_take {start count : Nat} {registered : List ConfPadDevice}
    (room : start + count ≤ registered.length) :
    ((writeFakes start count 0 registered).take (start + count)).map
        (fun device => baswap device.bdaddr) =
      (registered.take start).map (fun device => baswap device.bdaddr) ++
        (List.range count).map fakeBdaddr := by
  apply List.ext_getElem?
  intro j
  rw [List.getElem?_map, List.getElem?_take]
  by_cases inside : j < start + count
  · rw [if_pos inside, writeFakes_getElem]
    by_cases front : j < start
    · have length : j < ((registered.take start).map
          (fun device => baswap device.bdaddr)).length := by
        rw [List.length_map, List.length_take]
        omega
      rw [if_neg (by omega), List.getElem?_append_left length, List.getElem?_map,
        List.getElem?_take, if_pos front]
    · have length : ((registered.take start).map
          (fun device => baswap device.bdaddr)).length = start := by
        rw [List.length_map, List.length_take]
        omega
      rw [if_pos (by omega), List.getElem?_append_right (by omega), length,
        List.getElem?_map, List.getElem?_range (by omega),
        List.getElem?_eq_getElem (by omega : j < registered.length)]
      simp [fakeDevice]
  · rw [if_neg inside, List.getElem?_eq_none]
    · rfl
    · simp only [List.length_append, List.length_map, List.length_take, List.length_range]
      omega

/-- What a patch is for. -/
structure PatchedWell (before after : ConfPadsSetting) : Prop where
  size : after.numRegistered.toNat ≤ confPadMaxRegistered
  fakes : ∀ w : WiimoteId, after.addresses.count (fakeWiimoteBdaddr w) = 1
  kept : ∀ i < confPadMaxRegistered - 2, ∀ device, before.entries[i]? = some device →
    (∀ w : WiimoteId, baswap device.bdaddr ≠ fakeWiimoteBdaddr w) →
    after.entries[i]? = some device
  again : ∀ written, ∃ result, patchConfBtDinf (some after) written = .ok (result, some after)

/-- Either both addresses are there once each, the first before the second; or the first is not
among the entries that stay, and the second is, once, exactly when the first is registered. -/
def FakesInPlace (pads : ConfPadsSetting) : Prop :=
  let first := fakeWiimoteBdaddr 0
  let second := fakeWiimoteBdaddr 1
  let kept := pads.addresses.take (confPadMaxRegistered - 2)
  if [first, second].Sublist pads.addresses then
    pads.addresses.count first = 1 ∧ pads.addresses.count second = 1
  else first ∉ kept ∧ kept.count second = if first ∈ pads.addresses then 1 else 0

theorem pairedCount_pos_iff (addresses : List BdAddr) :
    1 ≤ countFrom fakeBdaddr 0 addresses ↔ fakeWiimoteBdaddr 0 ∈ addresses :=
  (le_countFrom_iff fakeBdaddr addresses 0 1).trans List.singleton_sublist

theorem pairedCount_two_iff (addresses : List BdAddr) :
    2 ≤ countFrom fakeBdaddr 0 addresses ↔
      [fakeWiimoteBdaddr 0, fakeWiimoteBdaddr 1].Sublist addresses :=
  le_countFrom_iff fakeBdaddr addresses 0 2

namespace ConfPadsSetting

variable {pads : ConfPadsSetting}

theorem addFakes_registered (pads : ConfPadsSetting) (count : Nat) :
    (pads.addFakes count).registered =
      writeFakes (min pads.numRegistered.toNat 8) count 0 pads.registered := rfl

theorem addFakes_numRegistered (pads : ConfPadsSetting) {count : Nat} (few : count ≤ 2) :
    (pads.addFakes count).numRegistered.toNat = min pads.numRegistered.toNat 8 + count := by
  have small : min pads.numRegistered.toNat 8 + count < 256 := by omega
  exact UInt8.toNat_ofNat_of_lt' small

theorem addFakes_addresses (pads : ConfPadsSetting) {count : Nat} (few : count ≤ 2) :
    (pads.addFakes count).addresses =
      pads.addresses.take (confPadMaxRegistered - 2) ++ (List.range count).map fakeBdaddr := by
  have inside : min pads.numRegistered.toNat 8 + count ≤ pads.registered.length := by
    rw [pads.registered_length, confPadMaxRegistered]
    omega
  unfold addresses entries
  rw [addFakes_numRegistered pads few, ← List.map_take, List.take_take, Nat.min_comm _ pads.numRegistered.toNat]
  exact writeFakes_take inside

theorem addFakes_entries {count : Nat} (few : count ≤ 2) {i : Nat}
    (front : i < confPadMaxRegistered - 2) {device : ConfPadDevice}
    (registered : pads.entries[i]? = some device) :
    (pads.addFakes count).entries[i]? = some device := by
  unfold entries at registered ⊢
  rw [List.getElem?_take] at registered
  split at registered
  case isFalse => cases registered
  case isTrue listed =>
      have before : i < min pads.numRegistered.toNat 8 := by
        rw [confPadMaxRegistered] at front
        omega
      rw [addFakes_numRegistered pads few, List.getElem?_take, if_pos (by omega)]
      rw [addFakes_registered, writeFakes_getElem, if_neg (by omega), registered]

/-- One place at the end of a full table is written over and over. -/
theorem addFakes_again (full : 8 ≤ pads.numRegistered.toNat) :
    (pads.addFakes 1).addFakes 1 = pads.addFakes 1 := by
  have start : min pads.numRegistered.toNat 8 = 8 := Nat.min_eq_right full
  have count := addFakes_numRegistered pads (by decide : 1 ≤ 2)
  rw [start] at count
  apply ConfPadsSetting.ext
  · apply UInt8.toNat_inj.mp
    rw [addFakes_numRegistered _ (by decide : 1 ≤ 2), count]
    rfl
  · rw [addFakes_registered, addFakes_registered, count, start]
    apply List.ext_getElem?
    intro j
    rw [writeFakes_getElem, show min (8 + 1) 8 = 8 from rfl, writeFakes_getElem]
    split
    · cases pads.registered[j]? with
      | none => rfl
      | some device => exact congrArg some (fakeDevice_again _ device)
    · rfl
  · rfl
  · rfl
  · rfl

end ConfPadsSetting

theorem patch_run {pads : ConfPadsSetting}
    (room : pads.numRegistered.toNat ≤ confPadMaxRegistered) (written : Bool) :
    patchConfBtDinf (some pads) written =
      if [fakeWiimoteBdaddr 0, fakeWiimoteBdaddr 1].Sublist pads.addresses then
        .ok (.ok, some pads)
      else .ok (if written then .ok else .einval,
        some (pads.addFakes (if fakeWiimoteBdaddr 0 ∈ pads.addresses then 1 else 2))) := by
  unfold patchConfBtDinf
  dsimp only
  rw [if_neg (Nat.not_lt.mpr room)]
  by_cases two : [fakeWiimoteBdaddr 0, fakeWiimoteBdaddr 1].Sublist pads.addresses
  · rw [if_pos two, if_pos ((pairedCount_two_iff _).mpr two)]
  · have few := mt (pairedCount_two_iff _).mp two
    rw [if_neg two, if_neg few]
    by_cases one : fakeWiimoteBdaddr 0 ∈ pads.addresses
    · have found := (pairedCount_pos_iff _).mpr one
      have count : 2 - countFrom fakeBdaddr 0 pads.addresses = 1 := by omega
      rw [count, if_pos one]
    · have none := mt (pairedCount_pos_iff _).mp one
      have count : 2 - countFrom fakeBdaddr 0 pads.addresses = 2 := by omega
      rw [count, if_neg one]

/-- A patch that found none or one of the addresses leaves both once exactly when the entries that
stay have the other one, or neither. -/
theorem fakes_once_iff {before : ConfPadsSetting} {count : Nat}
    (drawn : count = if fakeWiimoteBdaddr 0 ∈ before.addresses then 1 else 2) :
    (∀ w : WiimoteId, (before.addFakes count).addresses.count (fakeWiimoteBdaddr w) = 1) ↔
      fakeWiimoteBdaddr 0 ∉ before.addresses.take (confPadMaxRegistered - 2) ∧
        (before.addresses.take (confPadMaxRegistered - 2)).count (fakeWiimoteBdaddr 1) =
          if fakeWiimoteBdaddr 0 ∈ before.addresses then 1 else 0 := by
  have few : count ≤ 2 := by
    rw [drawn]
    split <;> decide
  rw [ConfPadsSetting.addFakes_addresses before few, ← List.count_eq_zero]
  by_cases one : fakeWiimoteBdaddr 0 ∈ before.addresses
  · rw [if_pos one] at drawn ⊢
    subst drawn
    have first : ((List.range 1).map fakeBdaddr).count (fakeWiimoteBdaddr 0) = 1 := by decide
    have second : ((List.range 1).map fakeBdaddr).count (fakeWiimoteBdaddr 1) = 0 := by decide
    constructor
    · intro once
      have zero := once 0
      have other := once 1
      rw [List.count_append] at zero other
      omega
    · rintro ⟨none, other⟩ w
      rw [List.count_append]
      rcases zero_or_one w with rfl | rfl
      · omega
      · omega
  · rw [if_neg one] at drawn ⊢
    subst drawn
    have first : ((List.range 2).map fakeBdaddr).count (fakeWiimoteBdaddr 0) = 1 := by decide
    have second : ((List.range 2).map fakeBdaddr).count (fakeWiimoteBdaddr 1) = 1 := by decide
    constructor
    · intro once
      have zero := once 0
      have other := once 1
      rw [List.count_append] at zero other
      omega
    · rintro ⟨none, other⟩ w
      rw [List.count_append]
      rcases zero_or_one w with rfl | rfl
      · omega
      · omega

theorem addFakes_size {before : ConfPadsSetting} {count : Nat} (few : count ≤ 2) :
    (before.addFakes count).numRegistered.toNat ≤ confPadMaxRegistered := by
  rw [ConfPadsSetting.addFakes_numRegistered before few, confPadMaxRegistered]
  omega

/-- A second patch finds both addresses in their order, or writes what is there. -/
theorem patch_again {before : ConfPadsSetting} {count : Nat}
    (drawn : count = if fakeWiimoteBdaddr 0 ∈ before.addresses then 1 else 2)
    (fresh : fakeWiimoteBdaddr 0 ∉ before.addresses.take (confPadMaxRegistered - 2))
    (written : Bool) : ∃ result, patchConfBtDinf (some (before.addFakes count)) written =
      .ok (result, some (before.addFakes count)) := by
  have few : count ≤ 2 := by
    rw [drawn]
    split <;> decide
  have addresses := ConfPadsSetting.addFakes_addresses before few
  rw [patch_run (addFakes_size few), addresses]
  by_cases one : fakeWiimoteBdaddr 0 ∈ before.addresses
  · rw [if_pos one] at drawn
    subst drawn
    have apart : ¬ [fakeWiimoteBdaddr 0, fakeWiimoteBdaddr 1].Sublist
        (before.addresses.take (confPadMaxRegistered - 2) ++ (List.range 1).map fakeBdaddr) := by
      intro order
      obtain ⟨front, back, split, kept, last⟩ := List.sublist_append_iff.mp order
      cases front with
      | nil =>
          have length := last.length_le
          rw [← show [fakeWiimoteBdaddr 0, fakeWiimoteBdaddr 1] = back from split] at length
          exact absurd length (by decide)
      | cons a rest =>
          have same : fakeWiimoteBdaddr 0 = a := List.head_eq_of_cons_eq split
          exact fresh (kept.subset (same ▸ List.mem_cons_self))
    have listed : fakeWiimoteBdaddr 0 ∈
        before.addresses.take (confPadMaxRegistered - 2) ++ (List.range 1).map fakeBdaddr :=
      List.mem_append_right _ (List.mem_singleton_self _)
    have full : 8 ≤ before.numRegistered.toNat := by
      by_contra short
      have length : before.addresses.length ≤ confPadMaxRegistered - 2 := by
        simp only [ConfPadsSetting.addresses, ConfPadsSetting.entries, List.length_map,
          List.length_take, confPadMaxRegistered]
        omega
      exact fresh ((List.take_of_length_le length).symm ▸ one)
    rw [if_neg apart, if_pos listed, ConfPadsSetting.addFakes_again full]
    exact ⟨_, rfl⟩
  · rw [if_neg one] at drawn
    subst drawn
    have order : [fakeWiimoteBdaddr 0, fakeWiimoteBdaddr 1].Sublist
        (before.addresses.take (confPadMaxRegistered - 2) ++ (List.range 2).map fakeBdaddr) :=
      List.sublist_append_right _ _
    rw [if_pos order]
    exact ⟨_, rfl⟩

/-- A table with at most ten entries is patched well exactly when the fake addresses are in it as
the scan expects them. -/
theorem patched_well_iff {before after : ConfPadsSetting} {written : Bool}
    (room : before.numRegistered.toNat ≤ confPadMaxRegistered)
    (run : patchConfBtDinf (some before) written = .ok (.ok, some after)) :
    PatchedWell before after ↔ FakesInPlace before := by
  rw [patch_run room] at run
  unfold FakesInPlace
  dsimp only
  by_cases two : [fakeWiimoteBdaddr 0, fakeWiimoteBdaddr 1].Sublist before.addresses
  · rw [if_pos two] at run ⊢
    cases run
    constructor
    · intro well
      exact ⟨well.fakes 0, well.fakes 1⟩
    · rintro ⟨first, second⟩
      refine ⟨room, ?_, fun i _ device listed _ => listed, fun written => ⟨.ok, ?_⟩⟩
      · intro w
        rcases zero_or_one w with rfl | rfl
        · exact first
        · exact second
      · rw [patch_run room, if_pos two]
  · rw [if_neg two] at run ⊢
    have patched : after = before.addFakes
        (if fakeWiimoteBdaddr 0 ∈ before.addresses then 1 else 2) :=
      (Option.some.inj (Prod.mk.inj (Except.ok.inj run)).2).symm
    have few : (if fakeWiimoteBdaddr 0 ∈ before.addresses then 1 else 2) ≤ 2 := by
      split <;> decide
    subst patched
    rw [← fakes_once_iff rfl]
    constructor
    · intro well
      exact well.fakes
    · intro once
      refine ⟨addFakes_size few, once, ?_, patch_again rfl ((fakes_once_iff rfl).mp once).1⟩
      intro i front device listed _
      exact ConfPadsSetting.addFakes_entries few front listed

def unnamedDevice (bdaddr : BdAddr) : ConfPadDevice := ⟨baswap bdaddr, List.replicate 64 0, rfl⟩

def onePaired (bdaddr : BdAddr) : ConfPadsSetting where
  numRegistered := 1
  registered := List.replicate 10 (unnamedDevice bdaddr)
  active := []
  balanceBoard := unnamedDevice bdaddr
  unknown := unnamedDevice bdaddr
  registered_length := rfl

/-- A table with a real Wiimote is patched well. -/
theorem patched_well_iff_real_wiimote :
    ∃ after, patchConfBtDinf (some (onePaired ⟨[0, 0x1E, 0x35, 1, 2, 3], rfl⟩)) true =
        .ok (.ok, some after) ∧
      PatchedWell (onePaired ⟨[0, 0x1E, 0x35, 1, 2, 3], rfl⟩) after := by
  have room : (onePaired ⟨[0, 0x1E, 0x35, 1, 2, 3], rfl⟩).numRegistered.toNat ≤
      confPadMaxRegistered := by decide
  have apart : ¬ [fakeWiimoteBdaddr 0, fakeWiimoteBdaddr 1].Sublist
      (onePaired ⟨[0, 0x1E, 0x35, 1, 2, 3], rfl⟩).addresses := by decide
  have none : fakeWiimoteBdaddr 0 ∉ (onePaired ⟨[0, 0x1E, 0x35, 1, 2, 3], rfl⟩).addresses := by
    decide
  have run := patch_run room true
  rw [if_neg apart, if_neg none] at run
  refine ⟨_, run, (patched_well_iff room run).mpr ?_⟩
  unfold FakesInPlace
  dsimp only
  rw [if_neg apart, if_neg none]
  decide

/-- A table with the first fake Wiimote gets it a second time, and the other one never. -/
theorem first_fake_patched_twice :
    ∃ after, patchConfBtDinf (some (onePaired (fakeWiimoteBdaddr 0))) true =
        .ok (.ok, some after) ∧ ¬ PatchedWell (onePaired (fakeWiimoteBdaddr 0)) after ∧
      after.addresses = [fakeWiimoteBdaddr 0, fakeWiimoteBdaddr 0] := by
  have room : (onePaired (fakeWiimoteBdaddr 0)).numRegistered.toNat ≤ confPadMaxRegistered := by
    decide
  have apart : ¬ [fakeWiimoteBdaddr 0, fakeWiimoteBdaddr 1].Sublist
      (onePaired (fakeWiimoteBdaddr 0)).addresses := by decide
  have one : fakeWiimoteBdaddr 0 ∈ (onePaired (fakeWiimoteBdaddr 0)).addresses := by decide
  have run := patch_run room true
  rw [if_neg apart, if_pos one] at run
  have addresses : ((onePaired (fakeWiimoteBdaddr 0)).addFakes 1).addresses =
      [fakeWiimoteBdaddr 0, fakeWiimoteBdaddr 0] := by decide
  refine ⟨_, run, fun well => ?_, addresses⟩
  have never := well.fakes 1
  rw [addresses] at never
  exact absurd never (by decide)

end Fakemote
