/-! Fields of 16-bit words: words that stay within a mask, and the bits that a field selects. -/

namespace BitFields

theorem and_or_distrib (first second mask : UInt16) :
    (first ||| second) &&& mask = (first &&& mask) ||| (second &&& mask) :=
  UInt16.toBitVec_inj.mp BitVec.and_or_distrib_right

def Within (mask word : UInt16) : Prop := word &&& mask = word

instance decidableWithin (mask word : UInt16) : Decidable (Within mask word) :=
  inferInstanceAs (Decidable (word &&& mask = word))

def field (shift mask word : UInt16) : UInt16 := (word >>> shift) &&& mask

namespace Within

variable {mask first second word : UInt16}

theorem zero (mask : UInt16) : Within mask 0 := UInt16.zero_and

theorem or (one : Within mask first) (two : Within mask second) :
    Within mask (first ||| second) := by
  unfold Within
  rw [and_or_distrib, one, two]

theorem shifted {shift bits : UInt16} (inside : Within mask (bits <<< shift)) (word : UInt16) :
    Within mask ((word &&& bits) <<< shift) := by
  unfold Within at inside ⊢
  rw [UInt16.shiftLeft_and, UInt16.and_assoc, inside]

theorem and_of_apart {other : UInt16} (within : Within mask word) (apart : mask &&& other = 0) :
    word &&& other = 0 := by
  rw [← within, UInt16.and_assoc, apart, UInt16.and_zero]

theorem field_of_apart {shift other : UInt16} (within : Within mask word)
    (apart : field shift other mask = 0) : field shift other word = 0 := by
  unfold field at apart ⊢
  rw [← within, UInt16.shiftRight_and, UInt16.and_assoc, apart, UInt16.and_zero]

end Within

theorem field_or (shift mask first second : UInt16) :
    field shift mask (first ||| second) = field shift mask first ||| field shift mask second := by
  unfold field
  rw [UInt16.shiftRight_or, and_or_distrib]

theorem and_toNat_le (word mask : UInt16) : (word &&& mask).toNat ≤ mask.toNat := by
  rw [UInt16.toNat_and]
  exact Nat.and_le_right

theorem join {shift mask : UInt16} (small : shift.toNat < 16)
    (low : mask.toNat = (1 <<< shift.toNat) - 1) (word : UInt16) :
    ((word >>> shift) <<< shift) ||| (word &&& mask) = word := by
  rw [Nat.one_shiftLeft] at low
  have split := Nat.div_add_mod word.toNat (2 ^ shift.toNat)
  have bound := word.toNat_lt
  have high : ((word >>> shift) <<< shift).toNat =
      (word.toNat / 2 ^ shift.toNat) <<< shift.toNat := by
    rw [UInt16.toNat_shiftLeft, UInt16.toNat_shiftRight, Nat.mod_eq_of_lt small,
      Nat.shiftRight_eq_div_pow]
    apply Nat.mod_eq_of_lt
    rw [Nat.shiftLeft_eq, Nat.mul_comm]
    omega
  apply UInt16.toNat_inj.mp
  rw [UInt16.toNat_or, high, UInt16.toNat_and, low, Nat.and_two_pow_sub_one_eq_mod,
    ← Nat.shiftLeft_add_eq_or_of_lt (Nat.mod_lt _ (Nat.two_pow_pos _)), Nat.shiftLeft_eq,
    Nat.mul_comm, split]

section Packed

variable {shift mask : UInt8} {bits size : Nat}

theorem low_toNat (sized : size = 1 <<< bits) (low : mask.toNat = size - 1) (byte : UInt8) :
    (byte &&& mask).toNat = byte.toNat % size := by
  rw [UInt8.toNat_and, low, sized, Nat.one_shiftLeft, Nat.and_two_pow_sub_one_eq_mod]

theorem high_toNat (sized : size = 1 <<< bits) (shifted : shift.toNat = bits) (small : bits < 8)
    (byte : UInt8) : (byte >>> shift).toNat = byte.toNat / size := by
  rw [UInt8.toNat_shiftRight, shifted, Nat.mod_eq_of_lt small, Nat.shiftRight_eq_div_pow, sized,
    Nat.one_shiftLeft]

/-- A field above the bits that the rest of the byte uses. -/
theorem pack_toNat (sized : size = 1 <<< bits) (shifted : shift.toNat = bits) (small : bits < 8)
    {high low : UInt8} (fits : low.toNat < size) (top : high.toNat * size < 256) :
    ((high <<< shift) ||| low).toNat = high.toNat * size + low.toNat := by
  rw [Nat.one_shiftLeft] at sized
  have moved : (high <<< shift).toNat = high.toNat <<< bits := by
    rw [UInt8.toNat_shiftLeft, shifted, Nat.mod_eq_of_lt small, Nat.shiftLeft_eq, ← sized]
    exact Nat.mod_eq_of_lt top
  rw [UInt8.toNat_or, moved, ← Nat.shiftLeft_add_eq_or_of_lt (sized ▸ fits), Nat.shiftLeft_eq,
    ← sized]

end Packed

theorem toUInt8_toUInt16 {word : UInt16} (fits : word.toNat < 256) :
    word.toUInt8.toUInt16 = word := by
  apply UInt16.toNat_inj.mp
  rw [UInt8.toNat_toUInt16, UInt16.toNat_toUInt8]
  exact Nat.mod_eq_of_lt fits

end BitFields
