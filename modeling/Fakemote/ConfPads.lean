import Fakemote.ConfDirectory
import Fakemote.PairingTable
import Fakemote.Library.Records

/-! The table of paired devices as it stands in SYSCONF, and what a new table that is written in
part leaves of it. -/

namespace Fakemote

open Records

def padFormat : Format ConfPadDevice UInt8 where
  width := 70
  encode device := device.bdaddr.val ++ device.name.val
  decode bytes offset := ⟨field 0 bytes offset 6, field 0 bytes (offset + 6) 64⟩
  encode_length := by
    intro device
    rw [List.length_append, device.bdaddr.property, device.name.property]
  decode_encode := by
    intro front device rest
    have second := @field_append UInt8 0 (front ++ device.bdaddr.val) rest _ device.name _ rfl
    rw [List.length_append, device.bdaddr.property, List.append_assoc] at second
    rw [List.append_assoc, field_append front _ device.bdaddr rfl, second]
  encode_decode := by
    intro source offset inside
    dsimp only
    rw [field_slice (by omega), field_slice (by omega), ← List.drop_drop, ← List.take_add]

@[simp] theorem padFormat_width : padFormat.width = 70 := rfl

def sizeofConfPads : Nat := 1121

namespace ConfPadsSetting

def ofBytes (bytes : List UInt8) : ConfPadsSetting where
  numRegistered := confByte bytes 0
  registered := padFormat.read bytes 1 confPadMaxRegistered
  active := padFormat.read bytes 701 4
  balanceBoard := padFormat.decode bytes 981
  unknown := padFormat.decode bytes 1051
  registered_length := padFormat.read_length bytes 1 confPadMaxRegistered

def bytes (pads : ConfPadsSetting) : List UInt8 :=
  pads.numRegistered :: (padFormat.write pads.registered ++
    (padFormat.write pads.active ++ padFormat.write [pads.balanceBoard, pads.unknown]))

end ConfPadsSetting

namespace ConfPadsSetting

theorem bytes_ofBytes {bytes : List UInt8} (size : bytes.length = sizeofConfPads) :
    (ofBytes bytes).bytes = bytes := by
  have size : bytes.length = 1121 := size
  have registered : padFormat.write (padFormat.read bytes 1 10) = (bytes.drop 1).take 700 :=
    padFormat.write_read (by rw [size]; decide)
  have active : padFormat.write (padFormat.read bytes 701 4) = (bytes.drop 701).take 280 :=
    padFormat.write_read (by rw [size]; decide)
  have last : padFormat.write [padFormat.decode bytes 981, padFormat.decode bytes 1051] =
      bytes.drop 981 := by
    have two := @Format.write_read _ _ padFormat bytes 2 981
      (by rw [size]; decide)
    rw [show 2 * padFormat.width = 140 from rfl, List.take_of_length_le (by simp [size])] at two
    exact two
  change confByte bytes 0 :: (padFormat.write (padFormat.read bytes 1 10) ++
    (padFormat.write (padFormat.read bytes 701 4) ++
      padFormat.write [padFormat.decode bytes 981, padFormat.decode bytes 1051])) = bytes
  rw [registered, active, last]
  cases bytes with
  | nil => exact absurd size (by decide)
  | cons first rest =>
      apply congrArg (first :: ·)
      rw [List.drop_succ_cons, List.drop_succ_cons, List.drop_succ_cons, List.drop_zero,
        ← List.drop_drop (i := 280) (j := 700), List.take_append_drop, List.take_append_drop]

theorem bytes_length {pads : ConfPadsSetting} (active : pads.active.length = 4) :
    pads.bytes.length = sizeofConfPads := by
  simp [bytes, padFormat.write_length, pads.registered_length, active, confPadMaxRegistered,
    sizeofConfPads]

theorem ofBytes_bytes {pads : ConfPadsSetting} (active : pads.active.length = 4) :
    ofBytes pads.bytes = pads := by
  have ten : pads.registered.length = 10 := pads.registered_length
  have front : (pads.numRegistered :: padFormat.write pads.registered).length = 701 := by
    rw [List.length_cons, padFormat.write_length, ten]
    rfl
  have middle : (pads.numRegistered :: padFormat.write pads.registered ++
      padFormat.write pads.active).length = 981 := by
    rw [List.length_append, front, padFormat.write_length, active]
    rfl
  apply ConfPadsSetting.ext
  · rfl
  · have read := padFormat.read_write pads.registered
      (padFormat.write pads.active ++ padFormat.write [pads.balanceBoard, pads.unknown])
      [pads.numRegistered]
    rw [ten] at read
    exact read
  · have read := padFormat.read_write pads.active
      (padFormat.write [pads.balanceBoard, pads.unknown])
      (pads.numRegistered :: padFormat.write pads.registered)
    rw [active, front] at read
    exact read
  · have read := padFormat.decode_encode (pads.numRegistered :: padFormat.write pads.registered ++
      padFormat.write pads.active) pads.balanceBoard (padFormat.encode pads.unknown ++ [])
    rw [middle, List.append_assoc] at read
    exact read
  · have read := padFormat.decode_encode (pads.numRegistered :: padFormat.write pads.registered ++
      padFormat.write pads.active ++ padFormat.encode pads.balanceBoard) pads.unknown []
    rw [List.length_append, middle, padFormat.encode_length, List.append_assoc,
      List.append_assoc] at read
    exact read

theorem addFakes_bytes (pads : ConfPadsSetting) (count : Nat) {index : Nat}
    (outside : 1 ≤ index ∧ index < 1 + min pads.numRegistered.toNat 8 * 70 ∨ 701 ≤ index) :
    (pads.addFakes count).bytes[index]? = pads.bytes[index]? := by
  have least : 1 ≤ index := by omega
  obtain ⟨below, rfl⟩ : ∃ below, index = below + 1 := ⟨index - 1, by omega⟩
  have length (registered : List ConfPadDevice) (ten : registered.length = confPadMaxRegistered) :
      (padFormat.write registered).length = 700 := by
    rw [padFormat.write_length, ten]
    rfl
  have before := length pads.registered pads.registered_length
  have after := length (pads.addFakes count).registered (pads.addFakes count).registered_length
  unfold bytes
  rw [List.getElem?_cons_succ, List.getElem?_cons_succ]
  rcases outside with front | beyond
  · have same : (pads.addFakes count).registered.take (min pads.numRegistered.toNat 8) =
        pads.registered.take (min pads.numRegistered.toNat 8) := by
      apply List.ext_getElem?
      intro i
      rw [List.getElem?_take, List.getElem?_take, addFakes_registered]
      split
      · rw [writeFakes_getElem, if_neg (by omega)]
      · rfl
    rw [List.getElem?_append_left (by omega), List.getElem?_append_left (by omega)]
    exact padFormat.write_agree same
      (by rw [(pads.addFakes count).registered_length, confPadMaxRegistered]; omega)
      (by rw [padFormat_width]; omega)
  · rw [List.getElem?_append_right (Nat.le_trans (Nat.le_of_eq after) (by omega)),
      List.getElem?_append_right (Nat.le_trans (Nat.le_of_eq before) (by omega)), before, after]
    rfl

/-- What no start takes from a table: the first eight devices, and all but the registered ones. -/
structure Keeps (pads after : ConfPadsSetting) : Prop where
  least : min pads.numRegistered.toNat 8 ≤ after.numRegistered.toNat
  most : after.numRegistered.toNat ≤ confPadMaxRegistered
  registered : ∀ i < min pads.numRegistered.toNat 8, after.registered[i]? = pads.registered[i]?
  active : after.active = pads.active
  balanceBoard : after.balanceBoard = pads.balanceBoard
  unknown : after.unknown = pads.unknown

theorem Keeps.refl {pads : ConfPadsSetting}
    (room : pads.numRegistered.toNat ≤ confPadMaxRegistered) : pads.Keeps pads where
  least := Nat.min_le_left _ _
  most := room
  registered _ _ := rfl
  active := rfl
  balanceBoard := rfl
  unknown := rfl

theorem Keeps.trans {pads later last : ConfPadsSetting} (first : pads.Keeps later)
    (second : later.Keeps last) : pads.Keeps last where
  least := by
    have least := first.least
    have later := second.least
    omega
  most := second.most
  registered i small := by
    have least := first.least
    rw [second.registered i (by omega), first.registered i small]
  active := second.active.trans first.active
  balanceBoard := second.balanceBoard.trans first.balanceBoard
  unknown := second.unknown.trans first.unknown

theorem ofBytes_torn {bytes : List UInt8} (size : bytes.length = sizeofConfPads)
    (room : (ofBytes bytes).numRegistered.toNat ≤ confPadMaxRegistered) {count : Nat}
    (few : count ≤ 2) (written : Nat) :
    (ofBytes bytes).Keeps (ofBytes (torn written ((ofBytes bytes).addFakes count).bytes bytes)) := by
  let new := ((ofBytes bytes).addFakes count).bytes
  have size : bytes.length = 1121 := size
  have same : new.length = bytes.length := by
    rw [size]
    exact bytes_length (padFormat.read_length bytes 701 4)
  have length : (torn written new bytes).length = 1121 := (torn_length written same).trans size
  -- the bytes outside the new entries stay
  have stays {index : Nat} (outside : 1 ≤ index ∧
      index < 1 + min (ofBytes bytes).numRegistered.toNat 8 * 70 ∨ 701 ≤ index) :
      (torn written new bytes)[index]? = bytes[index]? := by
    apply torn_agree written same
    rw [addFakes_bytes (ofBytes bytes) count outside, bytes_ofBytes size]
  have device {offset : Nat} (inside : offset + 70 ≤ 1121) (outside : 1 ≤ offset ∧
      offset + 70 ≤ 1 + min (ofBytes bytes).numRegistered.toNat 8 * 70 ∨ 701 ≤ offset) :
      padFormat.decode (torn written new bytes) offset = padFormat.decode bytes offset := by
    apply padFormat.decode_congr
    · rwa [size]
    · rwa [length]
    · intro index least most
      rw [padFormat_width] at most
      exact stays (by omega)
  have counts : (ofBytes (torn written new bytes)).numRegistered = (ofBytes bytes).numRegistered ∨
      (ofBytes (torn written new bytes)).numRegistered =
        ((ofBytes bytes).addFakes count).numRegistered := by
    change confByte (torn written new bytes) 0 = confByte bytes 0 ∨
      confByte (torn written new bytes) 0 = _
    unfold confByte
    rw [List.getD_eq_getElem?_getD, List.getD_eq_getElem?_getD, torn_getElem written same]
    split
    · exact Or.inr rfl
    · exact Or.inl rfl
  have more := addFakes_numRegistered (ofBytes bytes) few
  rw [confPadMaxRegistered] at room
  refine ⟨?_, ?_, ?_, ?_, device (by omega) (by omega), device (by omega) (by omega)⟩
  · rcases counts with kept | added
    · rw [kept]
      omega
    · rw [added]
      omega
  · rw [confPadMaxRegistered]
    rcases counts with kept | added
    · rw [kept]
      omega
    · rw [added]
      omega
  · intro i small
    change (padFormat.read (torn written new bytes) 1 10)[i]? = (padFormat.read bytes 1 10)[i]?
    unfold Format.read
    rw [List.getElem?_map, List.getElem?_map, List.getElem?_range (by omega)]
    exact congrArg some (device (by rw [padFormat_width]; omega) (by rw [padFormat_width]; omega))
  · change padFormat.read (torn written new bytes) 701 4 = padFormat.read bytes 701 4
    apply List.map_congr_left
    intro i listed
    have small := List.mem_range.mp listed
    exact device (by rw [padFormat_width]; omega) (by rw [padFormat_width]; omega)

end ConfPadsSetting

end Fakemote
