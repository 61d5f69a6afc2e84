import Mathlib.Data.List.TakeDrop

/-! Records of one size that stand one after another, and writes that can stop anywhere. -/

namespace Records

variable {α β : Type}

/-- So many elements from an offset on; where the list ends too early they are filled up. -/
def field (fill : β) (source : List β) (offset count : Nat) :
    { field : List β // field.length = count } :=
  ⟨(source.drop offset).takeD count fill, List.takeD_length _ _ _⟩

theorem field_slice {fill : β} {source : List β} {offset count : Nat}
    (inside : offset + count ≤ source.length) :
    (field fill source offset count).val = (source.drop offset).take count := by
  apply List.takeD_eq_take
  rw [List.length_drop]
  omega

theorem field_append {fill : β} (front rest : List β)
    {count : Nat} (middle : { field : List β // field.length = count }) {offset : Nat}
    (placed : offset = front.length) :
    field fill (front ++ (middle.val ++ rest)) offset count = middle := by
  subst placed
  apply Subtype.ext
  change ((front ++ (middle.val ++ rest)).drop front.length).takeD count fill = middle.val
  rw [List.drop_left]
  exact List.takeD_left' middle.property

/-- A way to write values in one number of elements, and to read them back. -/
structure Format (α β : Type) where
  width : Nat
  encode : α → List β
  decode : List β → Nat → α
  encode_length : ∀ value, (encode value).length = width
  decode_encode : ∀ front value rest, decode (front ++ (encode value ++ rest)) front.length = value
  encode_decode : ∀ source offset, offset + width ≤ source.length →
    encode (decode source offset) = (source.drop offset).take width

namespace Format

variable (format : Format α β)

def read (source : List β) (offset count : Nat) : List α :=
  (List.range count).map fun index => format.decode source (offset + index * format.width)

@[simp] theorem read_length (source : List β) (offset count : Nat) :
    (format.read source offset count).length = count := by
  simp [read]

theorem read_succ (source : List β) (offset count : Nat) :
    format.read source offset (count + 1) =
      format.decode source offset :: format.read source (offset + format.width) count := by
  unfold read
  rw [List.range_succ_eq_map, List.map_cons, List.map_map, Nat.zero_mul, Nat.add_zero]
  apply congrArg (format.decode source offset :: ·)
  apply List.map_congr_left
  intro index _
  apply congrArg (format.decode source)
  rw [Nat.succ_mul]
  omega

def write (values : List α) : List β := values.flatMap format.encode

theorem write_cons (value : α) (values : List α) :
    format.write (value :: values) = format.encode value ++ format.write values :=
  List.flatMap_cons

theorem write_append (values others : List α) :
    format.write (values ++ others) = format.write values ++ format.write others :=
  List.flatMap_append

theorem write_length (values : List α) :
    (format.write values).length = values.length * format.width := by
  induction values with
  | nil => simp [write]
  | cons value values ih =>
      rw [format.write_cons, List.length_append, format.encode_length, ih, List.length_cons,
        Nat.succ_mul]
      omega

theorem write_agree {values others : List α} {count index : Nat}
    (same : values.take count = others.take count) (most : count ≤ values.length)
    (front : index < count * format.width) :
    (format.write values)[index]? = (format.write others)[index]? := by
  have inside : index < (format.write (values.take count)).length := by
    rw [format.write_length, List.length_take, Nat.min_eq_left most]
    exact front
  calc
    _ = (format.write (values.take count))[index]? := by
      conv_lhs => rw [← List.take_append_drop count values]
      rw [format.write_append, List.getElem?_append_left inside]
    _ = (format.write (others.take count))[index]? := by rw [same]
    _ = _ := by
      conv_rhs => rw [← List.take_append_drop count others]
      rw [format.write_append, List.getElem?_append_left (same ▸ inside)]

theorem read_write (values : List α) (rest : List β) : ∀ front : List β,
    format.read (front ++ (format.write values ++ rest)) front.length values.length = values := by
  induction values with
  | nil =>
      intro front
      rfl
  | cons value values ih =>
      intro front
      have next := ih (front ++ format.encode value)
      rw [List.length_append, format.encode_length, List.append_assoc] at next
      rw [List.length_cons, format.read_succ, format.write_cons, List.append_assoc,
        format.decode_encode, next]

theorem write_read {source : List β} {count : Nat} : ∀ {offset : Nat},
    offset + count * format.width ≤ source.length →
    format.write (format.read source offset count) =
      (source.drop offset).take (count * format.width) := by
  induction count with
  | zero =>
      intro offset _
      simp [read, write]
  | succ count ih =>
      intro offset inside
      rw [Nat.succ_mul] at inside
      rw [format.read_succ, format.write_cons, format.encode_decode source offset (by omega),
        ih (by omega), Nat.succ_mul, Nat.add_comm (count * format.width), List.take_add,
        List.drop_drop]

theorem decode_congr {source other : List β} {offset : Nat} (inside : offset + format.width ≤ source.length)
    (within : offset + format.width ≤ other.length)
    (same : ∀ index, offset ≤ index → index < offset + format.width → other[index]? = source[index]?) :
    format.decode other offset = format.decode source offset := by
  have slices : (other.drop offset).take format.width = (source.drop offset).take format.width := by
    apply List.ext_getElem?
    intro index
    rw [List.getElem?_take, List.getElem?_take]
    split
    · rw [List.getElem?_drop, List.getElem?_drop, same _ (by omega) (by omega)]
    · rfl
  have encoded : format.encode (format.decode other offset) =
      format.encode (format.decode source offset) := by
    rw [format.encode_decode other offset within, format.encode_decode source offset inside, slices]
  have first := format.decode_encode [] (format.decode other offset) []
  rw [encoded, format.decode_encode] at first
  exact first.symm

end Format

def torn (count : Nat) (new old : List β) : List β := new.take count ++ old.drop count

@[simp] theorem torn_self (count : Nat) (old : List β) : torn count old old = old :=
  List.take_append_drop count old

theorem torn_whole {count : Nat} {new old : List β} (same : new.length = old.length)
    (whole : new.length ≤ count) : torn count new old = new := by
  unfold torn
  rw [List.take_of_length_le whole, List.drop_eq_nil_of_le (by omega), List.append_nil]

theorem torn_append (count : Nat) {first one : List β} (same : first.length = one.length)
    (second two : List β) :
    torn count (first ++ second) (one ++ two) =
      torn count first one ++ torn (count - first.length) second two := by
  unfold torn
  rw [List.take_append, List.drop_append, ← same]
  rcases Nat.le_total count first.length with before | beyond
  · rw [Nat.sub_eq_zero_of_le before]
    simp
  · rw [List.drop_eq_nil_of_le (show one.length ≤ count by omega)]
    simp

@[simp] theorem torn_length (count : Nat) {new old : List β} (same : new.length = old.length) :
    (torn count new old).length = old.length := by
  unfold torn
  rw [List.length_append, List.length_take, List.length_drop]
  omega

theorem torn_getElem (count : Nat) {new old : List β} (same : new.length = old.length)
    (index : Nat) : (torn count new old)[index]? = if index < count then new[index]? else old[index]? := by
  unfold torn
  rw [List.getElem?_append, List.length_take, List.getElem?_take, List.getElem?_drop]
  by_cases front : index < count
  · by_cases inside : index < new.length
    · rw [if_pos (by omega), if_pos front, if_pos front]
    · rw [if_neg (by omega), if_pos front, List.getElem?_eq_none (Nat.le_of_not_lt inside),
        List.getElem?_eq_none (by omega)]
  · rw [if_neg (by omega), if_neg front]
    by_cases inside : count ≤ new.length
    · rw [Nat.min_eq_left inside]
      congr 1
      omega
    · rw [List.getElem?_eq_none (by omega), List.getElem?_eq_none (by omega)]

theorem torn_agree (count : Nat) {new old : List β} (same : new.length = old.length) {index : Nat}
    (agree : new[index]? = old[index]?) : (torn count new old)[index]? = old[index]? := by
  rw [torn_getElem count same, agree, ite_self]

end Records
