/-! Bytes of a big-endian machine: 16-bit words in memory, loads and stores in a bounded buffer,
and registers addressed from zero. -/

namespace Bytes

def highByte (word : UInt16) : UInt8 := UInt8.ofNat (word.toNat / 256)

def lowByte (word : UInt16) : UInt8 := UInt8.ofNat word.toNat

def word16 (high low : UInt8) : UInt16 := UInt16.ofNat (high.toNat * 256 + low.toNat)

def bytes16 (word : UInt16) : List UInt8 := [highByte word, lowByte word]

def swap16 (word : UInt16) : UInt16 := word16 (lowByte word) (highByte word)

@[simp] theorem highByte_toNat (word : UInt16) : (highByte word).toNat = word.toNat / 256 := by
  have bound := word.toNat_lt
  simp only [highByte, UInt8.toNat_ofNat']
  omega

@[simp] theorem lowByte_toNat (word : UInt16) : (lowByte word).toNat = word.toNat % 256 := by
  simp [lowByte]

@[simp] theorem word16_toNat (high low : UInt8) :
    (word16 high low).toNat = high.toNat * 256 + low.toNat := by
  have first := high.toNat_lt
  have second := low.toNat_lt
  simp only [word16, UInt16.toNat_ofNat']
  omega

@[simp] theorem word16_bytes (word : UInt16) : word16 (highByte word) (lowByte word) = word := by
  apply UInt16.toNat_inj.mp
  simp only [word16_toNat, highByte_toNat, lowByte_toNat]
  omega

@[simp] theorem highByte_word16 (high low : UInt8) : highByte (word16 high low) = high := by
  have bound := low.toNat_lt
  apply UInt8.toNat_inj.mp
  simp only [highByte_toNat, word16_toNat]
  omega

@[simp] theorem lowByte_word16 (high low : UInt8) : lowByte (word16 high low) = low := by
  have bound := low.toNat_lt
  apply UInt8.toNat_inj.mp
  simp only [lowByte_toNat, word16_toNat]
  omega

@[simp] theorem swap16_swap16 (word : UInt16) : swap16 (swap16 word) = word := by
  simp [swap16]

def load8 (buffer : List UInt8) (offset : Nat) : Option UInt8 := buffer[offset]?

def load16 (buffer : List UInt8) (offset : Nat) : Option UInt16 :=
  match buffer[offset]?, buffer[offset + 1]? with
  | some high, some low => some (word16 high low)
  | _, _ => none

def loadBytes (buffer : List UInt8) (offset count : Nat) : Option (List UInt8) :=
  if offset + count ≤ buffer.length then some ((buffer.drop offset).take count) else none

def storeBytes (buffer : List UInt8) (offset : Nat) (bytes : List UInt8) :
    Option (List UInt8) :=
  if offset + bytes.length ≤ buffer.length then
    some (buffer.take offset ++ bytes ++ buffer.drop (offset + bytes.length))
  else none

def store16 (buffer : List UInt8) (offset : Nat) (word : UInt16) : Option (List UInt8) :=
  storeBytes buffer offset (bytes16 word)

theorem storeBytes_length {buffer result bytes : List UInt8} {offset : Nat}
    (stored : storeBytes buffer offset bytes = some result) :
    result.length = buffer.length := by
  unfold storeBytes at stored
  split at stored
  · cases stored
    simp only [List.length_append, List.length_take, List.length_drop]
    omega
  · cases stored

theorem storeBytes_getElem {buffer result bytes : List UInt8} {offset : Nat}
    (stored : storeBytes buffer offset bytes = some result) (index : Nat) :
    result[index]? =
      if offset ≤ index ∧ index < offset + bytes.length then bytes[index - offset]?
      else buffer[index]? := by
  unfold storeBytes at stored
  split at stored
  case isFalse => cases stored
  case isTrue room =>
      cases stored
      have taken : (buffer.take offset).length = offset := by
        rw [List.length_take]
        omega
      rw [List.append_assoc, List.getElem?_append, taken, List.getElem?_append]
      by_cases before : index < offset
      · have outside : ¬ (offset ≤ index ∧ index < offset + bytes.length) := by omega
        rw [if_pos before, if_neg outside, List.getElem?_take_of_lt before]
      · by_cases inside : index < offset + bytes.length
        · have within : index - offset < bytes.length := by omega
          simp [before, inside, within, Nat.not_lt.mp before]
        · have beyond : ¬ index - offset < bytes.length := by omega
          have position : offset + bytes.length + (index - offset - bytes.length) = index := by
            omega
          simp [before, inside, beyond, List.getElem?_drop, position]

theorem store16_other {buffer result : List UInt8} {offset : Nat} {word : UInt16}
    (stored : store16 buffer offset word = some result) (index : Nat)
    (other : index ≠ offset ∧ index ≠ offset + 1) : result[index]? = buffer[index]? := by
  rw [storeBytes_getElem stored]
  have outside : ¬ (offset ≤ index ∧ index < offset + (bytes16 word).length) := by
    simp only [bytes16, List.length_cons, List.length_nil]
    omega
  rw [if_neg outside]

theorem load16_store16 {buffer result : List UInt8} {offset : Nat} {word : UInt16}
    (stored : store16 buffer offset word = some result) : load16 result offset = some word := by
  have first := storeBytes_getElem stored offset
  have second := storeBytes_getElem stored (offset + 1)
  simp [bytes16] at first second
  simp [load16, first, second]

theorem load16_store16_other {buffer result : List UInt8} {offset index : Nat} {word : UInt16}
    (stored : store16 buffer offset word = some result)
    (apart : index + 1 < offset ∨ offset + 1 < index) :
    load16 result index = load16 buffer index := by
  unfold load16
  rw [store16_other stored index (by omega), store16_other stored (index + 1) (by omega)]

theorem store16_some (buffer : List UInt8) (offset : Nat) (word : UInt16)
    (room : offset + 2 ≤ buffer.length) : ∃ result, store16 buffer offset word = some result := by
  simp [store16, storeBytes, bytes16, room]

theorem load16_some {buffer : List UInt8} {offset : Nat} (room : offset + 2 ≤ buffer.length) :
    ∃ word, load16 buffer offset = some word := by
  have first : offset < buffer.length := by omega
  have second : offset + 1 < buffer.length := by omega
  simp [load16, List.getElem?_eq_getElem first, List.getElem?_eq_getElem second]

theorem load16_room {buffer : List UInt8} {offset : Nat} {word : UInt16}
    (loaded : load16 buffer offset = some word) : offset + 2 ≤ buffer.length := by
  unfold load16 at loaded
  split at loaded
  · rename_i second
    have := (List.getElem?_eq_some_iff.mp second).1
    omega
  · cases loaded

theorem load8_take (buffer : List UInt8) (count offset : Nat) :
    load8 (buffer.take count) offset = if offset < count then load8 buffer offset else none :=
  List.getElem?_take

theorem load16_take (buffer : List UInt8) (count offset : Nat) :
    load16 (buffer.take count) offset =
      if offset + 1 < count then load16 buffer offset else none := by
  unfold load16
  rw [List.getElem?_take, List.getElem?_take]
  by_cases inside : offset + 1 < count
  · have before : offset < count := by omega
    rw [if_pos inside, if_pos before, if_pos inside]
  · rw [if_neg inside, if_neg inside]
    split
    · rename_i none
      cases none
    · rfl

theorem store16_restore {buffer changed : List UInt8} {offset : Nat} {old new : UInt16}
    (loaded : load16 buffer offset = some old)
    (stored : store16 buffer offset new = some changed) :
    store16 changed offset old = some buffer := by
  have room := load16_room loaded
  obtain ⟨result, restored⟩ := store16_some changed offset old
    (by rw [storeBytes_length stored]; exact room)
  rw [restored, Option.some.injEq]
  apply List.ext_getElem?
  intro index
  by_cases first : index = offset
  · subst index
    have value := storeBytes_getElem restored offset
    simp [bytes16] at value
    unfold load16 at loaded
    split at loaded
    · rename_i high low hh hl
      cases loaded
      simpa [hh] using value
    · cases loaded
  · by_cases second : index = offset + 1
    · subst index
      have value := storeBytes_getElem restored (offset + 1)
      simp [bytes16] at value
      unfold load16 at loaded
      split at loaded
      · rename_i high low hh hl
        cases loaded
        simpa [hl] using value
      · cases loaded
    · rw [store16_other restored index ⟨first, second⟩, store16_other stored index ⟨first, second⟩]

abbrev Registers := Nat → UInt8

def Registers.read (registers : Registers) (address count : Nat) : List UInt8 :=
  (List.range count).map fun offset => registers (address + offset)

def Registers.write (registers : Registers) (address : Nat) (bytes : List UInt8) : Registers :=
  fun index =>
    if address ≤ index ∧ index < address + bytes.length then bytes.getD (index - address) 0
    else registers index

namespace Registers

variable {registers other : Registers} {bytes : List UInt8} {address start count : Nat}

@[simp] theorem read_length (registers : Registers) (address count : Nat) :
    (registers.read address count).length = count := by
  simp [read]

theorem read_congr
    (same : ∀ index, address ≤ index → index < address + count → other index = registers index) :
    other.read address count = registers.read address count := by
  apply List.map_congr_left
  intro offset member
  have bound := List.mem_range.mp member
  exact same (address + offset) (by omega) (by omega)

theorem read_write_apart (apart : start + bytes.length ≤ address ∨ address + count ≤ start) :
    (registers.write start bytes).read address count = registers.read address count := by
  apply read_congr
  intro index low high
  have outside : ¬ (start ≤ index ∧ index < start + bytes.length) := by omega
  exact if_neg outside

theorem read_write_same (registers : Registers) (address : Nat) (data : List UInt8) :
    (registers.write address data).read address data.length = data := by
  apply List.ext_getElem
  · exact read_length _ _ _
  · intro offset _ other
    simp [read, write, other, List.getD_eq_getElem?_getD]

theorem read_append (registers : Registers) (address first second : Nat) :
    registers.read address first ++ registers.read (address + first) second =
      registers.read address (first + second) := by
  simp only [read, List.range_add, List.map_append, List.map_map]
  congr 1
  apply List.map_congr_left
  intro offset _
  exact congrArg registers (Nat.add_assoc address first offset)

theorem read_take (registers : Registers) (address : Nat) {part count : Nat} (le : part ≤ count) :
    (registers.read address count).take part = registers.read address part := by
  rw [read, ← List.map_take, List.take_range, Nat.min_eq_left le]
  rfl

theorem read_write_drop (registers : Registers) (address : Nat) (data : List UInt8) {part : Nat}
    (le : part ≤ data.length) :
    (registers.write (address + part) (data.drop part)).read address data.length =
      (registers.read address data.length).take part ++ data.drop part := by
  have length : data.length = part + (data.drop part).length := by
    rw [List.length_drop]
    omega
  rw [read_take registers address le]
  rw [length, ← read_append, read_write_same, read_write_apart (Or.inr (Nat.le_refl _))]

theorem read_chunks (registers : Registers) {address width count size : Nat}
    (enough : size ≤ width * count) :
    ((List.range count).flatMap fun i =>
        registers.read (address + width * i) (min width (size - width * i))) =
      registers.read address size := by
  induction count generalizing address size with
  | zero =>
      have none : size = 0 := by omega
      rw [none]
      rfl
  | succ count ih =>
      rw [Nat.mul_succ] at enough
      have rest : ((List.range count).flatMap fun i => registers.read (address + width + width * i)
          (min width (size - width - width * i))) = registers.read (address + width) (size - width) :=
        ih (by omega)
      rw [List.range_succ_eq_map, List.flatMap_cons, List.flatMap_map]
      have shifted (i : Nat) : registers.read (address + width * (i + 1))
          (min width (size - width * (i + 1))) = registers.read (address + width + width * i)
            (min width (size - width - width * i)) := by
        rw [Nat.mul_succ, Nat.add_comm (width * i) width, ← Nat.add_assoc, ← Nat.sub_sub]
      simp only [shifted, Nat.mul_zero, Nat.add_zero, Nat.sub_zero, Nat.succ_eq_add_one]
      rw [rest]
      by_cases short : size ≤ width
      · rw [Nat.min_eq_right short, Nat.sub_eq_zero_of_le short]
        exact List.append_nil _
      · have long : width ≤ size := by omega
        rw [Nat.min_eq_left long, read_append]
        congr 1
        omega

end Registers

end Bytes
