import Fakemote.Conf
import Fakemote.InBounds
import Mathlib.Data.Nat.Find

/-! The directory of the system configuration: which entry a name has, and what `conf.c` reads to
find that out. -/

namespace Fakemote

open Bytes Scan

def confByte (conf : List UInt8) (offset : Nat) : UInt8 := conf.getD offset 0

def confWord (conf : List UInt8) (offset : Nat) : Nat :=
  (word16 (confByte conf offset) (confByte conf (offset + 1))).toNat

theorem load8_confByte {conf : List UInt8} {offset : Nat} (inside : offset < conf.length) :
    load8 conf offset = .ok (confByte conf offset) := by
  unfold load8 Bytes.load8 confByte
  rw [List.getElem?_eq_getElem inside, List.getD_eq_getElem?_getD,
    List.getElem?_eq_getElem inside]
  rfl

theorem load16_confWord {conf : List UInt8} {offset : Nat} (inside : offset + 2 ≤ conf.length) :
    ∃ word, load16 conf offset = .ok word ∧ word.toNat = confWord conf offset := by
  have first : offset < conf.length := by omega
  have second : offset + 1 < conf.length := by omega
  refine ⟨word16 conf[offset] conf[offset + 1], ?_, ?_⟩
  · unfold load16 Bytes.load16
    rw [List.getElem?_eq_getElem first, List.getElem?_eq_getElem second]
    rfl
  · unfold confWord confByte
    rw [List.getD_eq_getElem?_getD, List.getD_eq_getElem?_getD, List.getElem?_eq_getElem first,
      List.getElem?_eq_getElem second]
    rfl

theorem loadBytes_slice {conf : List UInt8} {offset count : Nat}
    (inside : offset + count ≤ conf.length) :
    loadBytes conf offset count = .ok ((conf.drop offset).take count) := by
  unfold loadBytes Bytes.loadBytes
  rw [if_pos inside]
  rfl

theorem drop_confByte {conf : List UInt8} {offset : Nat} (inside : offset < conf.length) :
    conf.drop offset = confByte conf offset :: conf.drop (offset + 1) := by
  rw [List.drop_eq_getElem_cons inside, confByte, List.getD_eq_getElem?_getD,
    List.getElem?_eq_getElem inside]
  rfl

/-- The bytes that a comparison with the block reads are inside: each one up to the first that
differs. -/
def ReadableTo (block buffer : List UInt8) (offset : Nat) : Prop :=
  ∀ k < block.length, (buffer.drop offset).take k = block.take k → offset + k < buffer.length

theorem readableTo_cons {u1 : UInt8} {block buffer : List UInt8} {offset : Nat}
    (inside : offset < buffer.length) :
    ReadableTo (u1 :: block) buffer offset ↔
      (u1 = confByte buffer offset → ReadableTo block buffer (offset + 1)) := by
  have split (k : Nat) : (buffer.drop offset).take (k + 1) =
      confByte buffer offset :: (buffer.drop (offset + 1)).take k := by
    rw [drop_confByte inside, List.take_succ_cons]
  constructor
  · intro readable same k short agree
    have next := readable (k + 1) (Nat.succ_lt_succ short)
    rw [split, List.take_succ_cons, agree, same] at next
    have := next rfl
    omega
  · intro readable k short agree
    cases k with
    | zero => exact inside
    | succ k =>
        rw [split, List.take_succ_cons] at agree
        injection agree with same agree
        have := readable same.symm k (Nat.lt_of_succ_lt_succ short) agree
        omega

/-- It ends inside the buffer exactly when the bytes up to the first difference are. -/
theorem memcmp_ok_iff {block buffer : List UInt8} {offset : Nat} :
    (∃ order, memcmp block buffer offset = .ok order) ↔ ReadableTo block buffer offset := by
  induction block generalizing offset with
  | nil => exact ⟨fun _ k short => absurd short (Nat.not_lt_zero k), fun _ => ⟨0, rfl⟩⟩
  | cons u1 block ih =>
      unfold memcmp
      by_cases inside : offset < buffer.length
      · rw [load8_confByte inside, readableTo_cons inside, ← ih]
        dsimp only [bind, Except.bind]
        by_cases same : u1 = confByte buffer offset
        · rw [if_neg (not_not_intro same)]
          exact ⟨fun result _ => result, fun result => result same⟩
        · rw [if_pos same]
          exact ⟨fun _ equal => absurd equal same, fun _ => ⟨_, rfl⟩⟩
      · rw [load8_beyond (Nat.le_of_not_lt inside)]
        constructor
        · intro ⟨_, run⟩
          cases run
        · intro readable
          exact absurd (readable 0 (Nat.succ_pos _) rfl) inside

theorem memcmp_eq_zero {block buffer : List UInt8} {offset : Nat} {order : Int}
    (compared : memcmp block buffer offset = .ok order) :
    order = 0 ↔ (buffer.drop offset).take block.length = block := by
  induction block generalizing offset with
  | nil =>
      cases compared
      exact ⟨fun _ => rfl, fun _ => rfl⟩
  | cons u1 block ih =>
      unfold memcmp at compared
      by_cases inside : offset < buffer.length
      · rw [load8_confByte inside] at compared
        dsimp only [bind, Except.bind] at compared
        rw [drop_confByte inside, List.length_cons, List.take_succ_cons]
        by_cases same : u1 = confByte buffer offset
        · rw [if_neg (not_not_intro same)] at compared
          rw [ih compared, same]
          exact (List.cons_inj_right _).symm
        · rw [if_pos same] at compared
          cases compared
          constructor
          · intro zero
            refine absurd (UInt8.toNat_inj.mp ?_) same
            omega
          · intro agree
            injection agree with head
            exact absurd head.symm same
      · rw [load8_beyond (Nat.le_of_not_lt inside)] at compared
        cases compared

def confCount (conf : List UInt8) : Nat := confWord conf 4

def confEntry (conf : List UInt8) (index : Nat) : Nat := confWord conf (6 + 2 * index)

def confHeader (conf : List UInt8) (index : Nat) : UInt8 := confByte conf (confEntry conf index)

def ConfMatches (conf name : List UInt8) (index : Nat) : Prop :=
  name.length = confNameLength (confHeader conf index) ∧
    (conf.drop (confEntry conf index + 1)).take name.length = name

instance (conf name : List UInt8) (index : Nat) : Decidable (ConfMatches conf name index) :=
  inferInstanceAs (Decidable (_ ∧ _))

theorem ConfMatches.inside {conf name : List UInt8} {index : Nat}
    (named : ConfMatches conf name index) :
    confEntry conf index + 1 + name.length ≤ conf.length := by
  have length := named.1
  have taken := congrArg List.length named.2
  rw [List.length_take, List.length_drop] at taken
  unfold confNameLength at length
  omega

structure EntryInside (conf name : List UInt8) (index : Nat) : Prop where
  offset : 6 + 2 * index + 2 ≤ conf.length
  header : confEntry conf index < conf.length
  name : name.length = confNameLength (confHeader conf index) →
    ReadableTo name conf (confEntry conf index + 1)

theorem load8_confHeader {conf : List UInt8} {index : Nat}
    (inside : confEntry conf index < conf.length) :
    load8 conf (confEntry conf index) = .ok (confHeader conf index) :=
  load8_confByte inside

theorem confLook_inside {conf name : List UInt8} {index : Nat}
    (inside : EntryInside conf name index) :
    confLook conf name index =
      .ok (if ConfMatches conf name index then some (confEntry conf index) else none) := by
  obtain ⟨word, loaded, value⟩ := load16_confWord inside.offset
  have entry : word.toNat = confEntry conf index := value
  unfold confLook
  rw [loaded]
  dsimp only [bind, Except.bind]
  rw [entry, load8_confHeader inside.header]
  dsimp only
  by_cases length : name.length = confNameLength (confHeader conf index)
  · obtain ⟨order, compared⟩ := memcmp_ok_iff.mpr (inside.name length)
    rw [if_pos length, compared]
    dsimp only [pure, Except.pure]
    exact congrArg _ (if_congr ((memcmp_eq_zero compared).trans (and_iff_right length).symm)
      rfl rfl)
  · rw [if_neg length, if_neg fun both => length both.1]
    rfl

theorem confLook_ok_iff {conf name : List UInt8} {index : Nat} :
    (∃ result, confLook conf name index = .ok result) ↔ EntryInside conf name index := by
  constructor
  · intro ⟨result, run⟩
    have offset : 6 + 2 * index + 2 ≤ conf.length := by
      by_contra beyond
      unfold confLook at run
      rw [load16_beyond (Nat.lt_of_not_le beyond)] at run
      cases run
    obtain ⟨word, loaded, value⟩ := load16_confWord offset
    have entry : word.toNat = confEntry conf index := value
    unfold confLook at run
    rw [loaded] at run
    dsimp only [bind, Except.bind] at run
    rw [entry] at run
    have header : confEntry conf index < conf.length := by
      by_contra beyond
      rw [load8_beyond (Nat.le_of_not_lt beyond)] at run
      cases run
    rw [load8_confHeader header] at run
    refine ⟨offset, header, fun length => memcmp_ok_iff.mp ?_⟩
    dsimp only at run
    rw [if_pos length] at run
    rcases compared : memcmp name conf (confEntry conf index + 1) with fault | order
    · rw [compared] at run
      cases run
    · exact ⟨order, rfl⟩
  · intro inside
    exact ⟨_, confLook_inside inside⟩

/-- All that `conf_find` reads is inside the file, up to the entry that it finds. -/
def Scannable (conf name : List UInt8) : Prop :=
  ∀ index < confCount conf, (∀ earlier < index, ¬ ConfMatches conf name earlier) →
    EntryInside conf name index

structure IsFirst (conf name : List UInt8) (index : Nat) : Prop where
  listed : index < confCount conf
  named : ConfMatches conf name index
  earlier : ∀ earlier < index, ¬ ConfMatches conf name earlier

theorem first_or_none (conf name : List UInt8) :
    (∃ index, IsFirst conf name index) ∨ ∀ index < confCount conf, ¬ ConfMatches conf name index := by
  by_cases present : ∃ index, index < confCount conf ∧ ConfMatches conf name index
  · obtain ⟨listed, named⟩ := Nat.find_spec present
    refine Or.inl ⟨Nat.find present, listed, named, fun earlier before named => ?_⟩
    exact Nat.find_min present before ⟨by omega, named⟩
  · exact Or.inr fun index listed named => present ⟨index, listed, named⟩

theorem IsFirst.unique {conf name : List UInt8} {one two : Nat} (first : IsFirst conf name one)
    (second : IsFirst conf name two) : one = two := by
  rcases Nat.lt_trichotomy one two with before | same | after
  · exact absurd first.named (second.earlier one before)
  · exact same
  · exact absurd second.named (first.earlier two after)

section Find

variable {conf name : List UInt8}

theorem confFind_scan (size : 6 ≤ conf.length) :
    confFind conf name = scan (confLook conf name) (confCount conf) 0 := by
  obtain ⟨word, loaded, value⟩ := @load16_confWord conf 4 size
  have count : word.toNat = confCount conf := value
  unfold confFind
  rw [loaded, ← count]
  rfl

theorem confFind_ok_iff (size : 6 ≤ conf.length) :
    (∃ found, confFind conf name = .ok found) ↔ Scannable conf name := by
  rw [confFind_scan size, scan_ok_iff]
  have missed {index : Nat} (inside : EntryInside conf name index) :
      confLook conf name index = .ok none ↔ ¬ ConfMatches conf name index := by
    rw [confLook_inside inside]
    by_cases named : ConfMatches conf name index <;> simp [named]
  constructor
  · intro readable index
    -- earlier entries are inside, so that they were looked at
    induction index using Nat.strongRecOn with
    | ind index ih =>
        intro listed earlier
        apply confLook_ok_iff.mp
        apply readable index (Nat.zero_le _) (by omega)
        intro k _ before
        have inside := ih k before (by omega) fun j small => earlier j (by omega)
        exact (missed inside).mpr (earlier k before)
  · intro scannable index _ listed earlier
    apply confLook_ok_iff.mpr
    apply scannable index (by omega)
    intro k before
    have looked := earlier k (Nat.zero_le _) before
    exact (missed (confLook_ok_iff.mp ⟨_, looked⟩)).mp looked

theorem confFind_first (size : 6 ≤ conf.length) (scannable : Scannable conf name) {index : Nat}
    (first : IsFirst conf name index) :
    confFind conf name = .ok (some (confEntry conf index)) := by
  rw [confFind_scan size]
  apply scan_some (Nat.zero_le index) (by have := first.listed; omega)
  · rw [confLook_inside (scannable index first.listed first.earlier), if_pos first.named]
  · intro j _ before
    have inside := scannable j (Nat.lt_trans before first.listed) fun k small =>
      first.earlier k (Nat.lt_trans small before)
    rw [confLook_inside inside, if_neg (first.earlier j before)]

theorem confFind_none (size : 6 ≤ conf.length) (scannable : Scannable conf name)
    (absent : ∀ index < confCount conf, ¬ ConfMatches conf name index) :
    confFind conf name = .ok none := by
  rw [confFind_scan size]
  apply scan_none
  intro index _ listed
  have inside := scannable index (by omega) fun k small => absent k (by omega)
  rw [confLook_inside inside, if_neg (absent index (by omega))]

end Find

def ConfType.lengthSize : ConfType → Nat
  | bigarray => 2
  | smallarray => 1
  | byte | short | long | bool => 0

def confStored (conf name : List UInt8) (entry : Nat) : ConfType → Nat
  | .bigarray => confWord conf (entry + name.length + 1) + 1
  | .smallarray => (confByte conf (entry + name.length + 1)).toNat + 1
  | .byte | .bool => 1
  | .short => 2
  | .long => 4

def confPayload (name : List UInt8) (entry : Nat) (type : ConfType) : Nat :=
  entry + name.length + 1 + type.lengthSize

structure Found (conf name : List UInt8) (entry : Nat) (type : ConfType) : Prop where
  found : confFind conf name = .ok (some entry)
  inside : entry + 1 + name.length ≤ conf.length
  type : confType (confByte conf entry) = some type

theorem bigEndian_length (high low : UInt8) :
    (high.toNat <<< 8) ||| low.toNat = (word16 high low).toNat := by
  rw [← Nat.shiftLeft_add_eq_or_of_lt low.toNat_lt, Nat.shiftLeft_eq, word16_toNat]

namespace Found

variable {conf name : List UInt8} {entry : Nat} {type : ConfType}

theorem header (found : Found conf name entry type) :
    load8 conf entry = .ok (confByte conf entry) :=
  load8_confByte (by have := found.inside; omega)

theorem getLength (found : Found conf name entry type) :
    confGetLength conf name =
      if confPayload name entry type ≤ conf.length then .ok (confStored conf name entry type)
      else .error .outOfBounds := by
  have inside := found.inside
  unfold confGetLength
  rw [found.found]
  dsimp only [bind, Except.bind]
  rw [found.header]
  dsimp only
  rw [found.type]
  cases type with
  | bigarray =>
      have payload : confPayload name entry .bigarray = entry + name.length + 3 := rfl
      dsimp only
      by_cases second : confPayload name entry .bigarray ≤ conf.length
      · rw [if_pos second, load8_confByte (by omega), load8_confByte (by omega)]
        dsimp only
        rw [bigEndian_length]
        rfl
      · rw [if_neg second]
        by_cases first : entry + name.length + 1 < conf.length
        · rw [load8_confByte first, load8_beyond (by omega)]
        · rw [load8_beyond (Nat.le_of_not_lt first)]
  | smallarray =>
      have payload : confPayload name entry .smallarray = entry + name.length + 2 := rfl
      dsimp only
      by_cases first : confPayload name entry .smallarray ≤ conf.length
      · rw [if_pos first, load8_confByte (by omega)]
        rfl
      · rw [if_neg first, load8_beyond (by omega)]
  | byte | short | long | bool =>
      have payload : confPayload name entry .byte = entry + name.length + 1 := rfl
      exact (if_pos (show confPayload name entry .byte ≤ conf.length by omega)).symm

theorem get (found : Found conf name entry type) {buffer : List UInt8} {length : UInt32}
    (whole : buffer.length = length.toNat) :
    confGet conf name buffer length =
      if confPayload name entry type ≤ conf.length then
        if confStored conf name entry type ≤ length.toNat then do
          let data ← loadBytes conf (confPayload name entry type) (confStored conf name entry type)
          let after ← storeBytes
            (if type.lengthSize = 0 then List.replicate length.toNat 0 else buffer) 0 data
          return ((confStored conf name entry type : Int), after)
        else .ok (confEtoobig, buffer)
      else .error .outOfBounds := by
  unfold confGet
  rw [found.found, found.getLength]
  dsimp only [bind, Except.bind]
  by_cases inside : confPayload name entry type ≤ conf.length
  · rw [if_pos inside, if_pos inside]
    dsimp only
    rw [if_neg (by omega)]
    by_cases fits : confStored conf name entry type ≤ length.toNat
    · rw [if_neg (by omega), if_pos fits, found.header]
      dsimp only
      rw [found.type]
      have cleared : storeBytes buffer 0 (List.replicate length.toNat 0) =
          .ok (List.replicate length.toNat 0) := by
        unfold storeBytes Bytes.storeBytes
        rw [if_pos (by simp [whole])]
        simp [← whole, orFault]
      cases type with
      | bigarray => rfl
      | smallarray => rfl
      | _ =>
          dsimp only
          rw [cleared]
          rfl
    · rw [if_pos (by omega), if_neg fits]
      rfl
  · rw [if_neg inside, if_neg inside]

theorem set (found : Found conf name entry type) (buffer : List UInt8) (length : UInt32) :
    confSet conf name buffer length =
      if confPayload name entry type ≤ conf.length then
        if length.toNat ≤ confStored conf name entry type then do
          let data ← loadBytes buffer 0 (confStored conf name entry type)
          let after ← storeBytes conf (confPayload name entry type) data
          return ((confStored conf name entry type : Int), after)
        else .ok (confEtoobig, conf)
      else .error .outOfBounds := by
  unfold confSet
  rw [found.found, found.getLength]
  dsimp only [bind, Except.bind]
  by_cases inside : confPayload name entry type ≤ conf.length
  · rw [if_pos inside, if_pos inside]
    dsimp only
    rw [if_neg (by omega)]
    by_cases fits : length.toNat ≤ confStored conf name entry type
    · rw [if_neg (by omega), if_pos fits, found.header]
      dsimp only
      rw [found.type]
      cases type <;> rfl
    · rw [if_pos (by omega), if_neg fits]
      rfl
  · rw [if_neg inside, if_neg inside]

end Found

theorem conf_unknown {conf name : List UInt8} {entry : Nat}
    (found : confFind conf name = .ok (some entry)) (inside : entry < conf.length)
    (unknown : confType (confByte conf entry) = none) (buffer : List UInt8) (length : UInt32) :
    confGet conf name buffer length = .ok (confEnotimpl, buffer) ∧
      confSet conf name buffer length = .ok (confEnotimpl, conf) := by
  have stored : confGetLength conf name = .ok confEnotimpl := by
    unfold confGetLength
    rw [found]
    dsimp only [bind, Except.bind]
    rw [load8_confByte inside]
    dsimp only
    rw [unknown]
    rfl
  constructor
  · unfold confGet
    rw [found, stored]
    rfl
  · unfold confSet
    rw [found, stored]
    rfl

theorem conf_absent {conf name : List UInt8} (absent : confFind conf name = .ok none)
    (buffer : List UInt8) (length : UInt32) :
    confGet conf name buffer length = .ok (confEnoent, buffer) ∧
      confSet conf name buffer length = .ok (confEnoent, conf) := by
  constructor
  · unfold confGet
    rw [absent]
    rfl
  · unfold confSet
    rw [absent]
    rfl

end Fakemote
