import Fakemote.ConfBounds

/-! Writing an entry of a well-formed system configuration, and reading it and the others after
that. -/

namespace Fakemote

open Bytes

def confName (conf : List UInt8) (index : Nat) : List UInt8 :=
  (conf.drop (confEntry conf index + 1)).take (confNameLength (confHeader conf index))

/-- The end of what `conf.c` reads of an entry to find the payload. -/
def confHead (conf : List UInt8) (index : Nat) : Nat :=
  confEntry conf index + confNameLength (confHeader conf index) + 1 +
    ((confType (confHeader conf index)).map ConfType.lengthSize).getD 0

/-- The length of the payload of an entry; there is none when its type is not known. -/
def confPayloadSize (conf : List UInt8) (index : Nat) : Nat :=
  ((confType (confHeader conf index)).map
    (confStored conf (confName conf index) (confEntry conf index))).getD 0

def confEnd (conf : List UInt8) (index : Nat) : Nat := confHead conf index + confPayloadSize conf index

structure WellFormed (conf : List UInt8) : Prop where
  size : conf.length = confSize
  directory : 6 + 2 * confCount conf ≤ conf.length
  inside : ∀ index < confCount conf, confEnd conf index ≤ conf.length
  disjoint : ∀ one < confCount conf, ∀ two < confCount conf, one ≠ two →
    confEnd conf one ≤ confEntry conf two ∨ confEnd conf two ≤ confEntry conf one
  apart : ∀ index < confCount conf,
    6 + 2 * confCount conf ≤ confEntry conf index ∨ confEnd conf index ≤ 4
  distinct : ∀ one < confCount conf, ∀ two < confCount conf, one ≠ two →
    confName conf one ≠ confName conf two

theorem confEntry_lt_head (conf : List UInt8) (index : Nat) :
    confEntry conf index + 1 + confNameLength (confHeader conf index) ≤ confHead conf index := by
  unfold confHead
  omega

theorem confHead_le_end (conf : List UInt8) (index : Nat) :
    confHead conf index ≤ confEnd conf index :=
  Nat.le_add_right _ _

namespace WellFormed

variable {conf name : List UInt8} {index : Nat}

theorem nameInside (wellFormed : WellFormed conf) (listed : index < confCount conf) :
    confEntry conf index + 1 + confNameLength (confHeader conf index) ≤ conf.length := by
  have inside := wellFormed.inside index listed
  have head := confEntry_lt_head conf index
  have end_ := confHead_le_end conf index
  omega

theorem nameLength (wellFormed : WellFormed conf) (listed : index < confCount conf) :
    (confName conf index).length = confNameLength (confHeader conf index) := by
  have inside := wellFormed.nameInside listed
  unfold confName
  rw [List.length_take, List.length_drop]
  omega

theorem matches_iff (wellFormed : WellFormed conf) (listed : index < confCount conf) :
    ConfMatches conf name index ↔ confName conf index = name := by
  constructor
  · intro ⟨length, same⟩
    unfold confName
    rw [← length]
    exact same
  · rintro rfl
    have length := wellFormed.nameLength listed
    refine ⟨length, ?_⟩
    rw [length]
    rfl

theorem entryInside (wellFormed : WellFormed conf) (name : List UInt8)
    (listed : index < confCount conf) : EntryInside conf name index where
  offset := by
    have directory := wellFormed.directory
    omega
  header := by
    have inside := wellFormed.nameInside listed
    omega
  name length k short _ := by
    have inside := wellFormed.nameInside listed
    omega

theorem scannable (wellFormed : WellFormed conf) (name : List UInt8) : Scannable conf name :=
  fun _ listed _ => wellFormed.entryInside name listed

/-- Names are distinct, so the first entry of a name is the only one. -/
theorem isFirst_iff (wellFormed : WellFormed conf) :
    IsFirst conf name index ↔ index < confCount conf ∧ confName conf index = name := by
  constructor
  · exact fun first => ⟨first.listed, (wellFormed.matches_iff first.listed).mp first.named⟩
  · intro ⟨listed, named⟩
    refine ⟨listed, (wellFormed.matches_iff listed).mpr named, fun earlier before other => ?_⟩
    have listed' : earlier < confCount conf := Nat.lt_trans before listed
    have also := (wellFormed.matches_iff listed').mp other
    exact wellFormed.distinct earlier listed' index listed (Nat.ne_of_lt before)
      (also.trans named.symm)

end WellFormed

structure SameOutside (start count : Nat) (conf after : List UInt8) : Prop where
  length : after.length = conf.length
  bytes : ∀ offset, offset < start ∨ start + count ≤ offset → after[offset]? = conf[offset]?

theorem sameOutside_store {conf after bytes : List UInt8} {start : Nat}
    (stored : storeBytes conf start bytes = .ok after) :
    SameOutside start bytes.length conf after := by
  have stored := orFault_ok.mp stored
  refine ⟨storeBytes_length stored, fun offset outside => ?_⟩
  rw [storeBytes_getElem stored]
  have other : ¬ (start ≤ offset ∧ offset < start + bytes.length) := by omega
  rw [if_neg other]

theorem slice_store {conf after bytes : List UInt8} {start : Nat}
    (stored : storeBytes conf start bytes = .ok after) :
    (after.drop start).take bytes.length = bytes := by
  have stored := orFault_ok.mp stored
  apply List.ext_getElem?
  intro i
  rw [List.getElem?_take]
  split
  · rename_i inside
    rw [List.getElem?_drop, storeBytes_getElem stored, if_pos (by omega), Nat.add_sub_cancel_left]
  · rename_i beyond
    exact (List.getElem?_eq_none (Nat.le_of_not_lt beyond)).symm

namespace SameOutside

variable {start count : Nat} {conf after : List UInt8}

theorem byte (same : SameOutside start count conf after) {offset : Nat}
    (outside : offset < start ∨ start + count ≤ offset) :
    confByte after offset = confByte conf offset := by
  unfold confByte
  rw [List.getD_eq_getElem?_getD, List.getD_eq_getElem?_getD, same.bytes offset outside]

theorem word (same : SameOutside start count conf after) {offset : Nat}
    (outside : offset + 2 ≤ start ∨ start + count ≤ offset) :
    confWord after offset = confWord conf offset := by
  unfold confWord
  rw [same.byte (by omega), same.byte (by omega)]

theorem slice (same : SameOutside start count conf after) {offset size : Nat}
    (outside : offset + size ≤ start ∨ start + count ≤ offset) :
    (after.drop offset).take size = (conf.drop offset).take size := by
  apply List.ext_getElem?
  intro i
  rw [List.getElem?_take, List.getElem?_take]
  split
  · rw [List.getElem?_drop, List.getElem?_drop, same.bytes _ (by omega)]
  · rfl

end SameOutside

theorem confHead_congr {start count index : Nat} {conf after : List UInt8}
    (same : SameOutside start count conf after)
    (entry : confEntry after index = confEntry conf index)
    (outside : confHead conf index ≤ start ∨ start + count ≤ confEntry conf index) :
    confHeader after index = confHeader conf index ∧ confName after index = confName conf index ∧
      ∀ name type, name.length = confNameLength (confHeader conf index) →
        confType (confHeader conf index) = some type →
        confStored after name (confEntry conf index) type =
          confStored conf name (confEntry conf index) type := by
  have head := confEntry_lt_head conf index
  have header : confHeader after index = confHeader conf index := by
    unfold confHeader
    rw [entry]
    exact same.byte (by omega)
  refine ⟨header, ?_, ?_⟩
  · unfold confName
    rw [header, entry]
    exact same.slice (by omega)
  · intro name type length known
    have size : confHead conf index =
        confEntry conf index + confNameLength (confHeader conf index) + 1 + type.lengthSize := by
      unfold confHead
      rw [known]
      rfl
    cases type with
    | bigarray =>
        dsimp only [ConfType.lengthSize] at size
        dsimp only [confStored]
        rw [same.word (by omega)]
    | smallarray =>
        dsimp only [ConfType.lengthSize] at size
        dsimp only [confStored]
        rw [same.byte (by omega)]
    | byte | short | long | bool => rfl

theorem confPayload_of_type {conf : List UInt8} {index : Nat} {type : ConfType} {name : List UInt8}
    (length : name.length = confNameLength (confHeader conf index))
    (known : confType (confHeader conf index) = some type) :
    confPayload name (confEntry conf index) type = confHead conf index := by
  unfold confPayload confHead
  rw [known, length]
  rfl

theorem confPayloadSize_of_type {conf : List UInt8} {index : Nat} {type : ConfType}
    (known : confType (confHeader conf index) = some type) :
    confPayloadSize conf index =
      confStored conf (confName conf index) (confEntry conf index) type := by
  unfold confPayloadSize
  rw [known]
  rfl

structure Rewritten (conf after : List UInt8) (written : Nat) : Prop where
  wellFormed : WellFormed conf
  listed : written < confCount conf
  same : SameOutside (confHead conf written) (confPayloadSize conf written) conf after

namespace Rewritten

variable {conf after : List UInt8} {written index : Nat}

theorem directory (rewritten : Rewritten conf after written) {offset : Nat} (least : 4 ≤ offset)
    (most : offset + 2 ≤ 6 + 2 * confCount conf) : confWord after offset = confWord conf offset := by
  apply rewritten.same.word
  have head := confEntry_lt_head conf written
  rcases rewritten.wellFormed.apart written rewritten.listed with beyond | before
  · omega
  · unfold confEnd at before
    omega

theorem count (rewritten : Rewritten conf after written) : confCount after = confCount conf :=
  rewritten.directory (by omega) (by omega)

theorem entry (rewritten : Rewritten conf after written) (listed : index < confCount conf) :
    confEntry after index = confEntry conf index :=
  rewritten.directory (by omega) (by omega)

theorem outside (rewritten : Rewritten conf after written) (listed : index < confCount conf)
    (other : index ≠ written) :
    confEnd conf index ≤ confHead conf written ∨ confEnd conf written ≤ confEntry conf index := by
  have head := confEntry_lt_head conf written
  rcases rewritten.wellFormed.disjoint index listed written rewritten.listed other with
    before | beyond
  · exact Or.inl (by omega)
  · exact Or.inr beyond

theorem head (rewritten : Rewritten conf after written) (listed : index < confCount conf) :
    confHeader after index = confHeader conf index ∧ confName after index = confName conf index ∧
      ∀ name type, name.length = confNameLength (confHeader conf index) →
        confType (confHeader conf index) = some type →
        confStored after name (confEntry conf index) type =
          confStored conf name (confEntry conf index) type := by
  apply confHead_congr rewritten.same (rewritten.entry listed)
  by_cases own : index = written
  · subst own
    exact Or.inl (Nat.le_refl _)
  · have end_ := confHead_le_end conf index
    rcases rewritten.outside listed own with before | beyond
    · exact Or.inl (by omega)
    · exact Or.inr beyond

theorem headAt (rewritten : Rewritten conf after written) (listed : index < confCount conf) :
    confHead after index = confHead conf index := by
  unfold confHead
  rw [rewritten.entry listed, (rewritten.head listed).1]

theorem endAt (rewritten : Rewritten conf after written) (listed : index < confCount conf) :
    confEnd after index = confEnd conf index := by
  obtain ⟨header, name, stored⟩ := rewritten.head listed
  unfold confEnd confPayloadSize
  rw [rewritten.headAt listed, rewritten.entry listed, header, name]
  rcases known : confType (confHeader conf index) with _ | type
  · simp only [Option.map_none]
  · simp only [Option.map_some, Option.getD_some]
    rw [stored _ type (rewritten.wellFormed.nameLength listed) known]

theorem kept (rewritten : Rewritten conf after written) : WellFormed after := by
  have wellFormed := rewritten.wellFormed
  have length := rewritten.same.length
  refine ⟨length.trans wellFormed.size, ?_, ?_, ?_, ?_, ?_⟩
  · rw [rewritten.count, length]
    exact wellFormed.directory
  · intro index listed
    rw [rewritten.count] at listed
    rw [rewritten.endAt listed, length]
    exact wellFormed.inside index listed
  · intro one listed two also differ
    rw [rewritten.count] at listed also
    rw [rewritten.endAt listed, rewritten.endAt also, rewritten.entry listed, rewritten.entry also]
    exact wellFormed.disjoint one listed two also differ
  · intro index listed
    rw [rewritten.count] at listed ⊢
    rw [rewritten.endAt listed, rewritten.entry listed]
    exact wellFormed.apart index listed
  · intro one listed two also differ
    rw [rewritten.count] at listed also
    rw [(rewritten.head listed).2.1, (rewritten.head also).2.1]
    exact wellFormed.distinct one listed two also differ

end Rewritten

theorem WellFormed.found {conf : List UInt8} (wellFormed : WellFormed conf) {index : Nat}
    {type : ConfType} (listed : index < confCount conf)
    (known : confType (confHeader conf index) = some type) :
    Found conf (confName conf index) (confEntry conf index) type := by
  have size : 6 ≤ conf.length := by
    rw [wellFormed.size]
    decide
  refine ⟨confFind_first size (wellFormed.scannable _) (wellFormed.isFirst_iff.mpr ⟨listed, rfl⟩),
    ?_, known⟩
  rw [wellFormed.nameLength listed]
  exact wellFormed.nameInside listed

theorem Rewritten.get_other {conf after : List UInt8} {written : Nat}
    (rewritten : Rewritten conf after written) {name : List UInt8}
    (other : name ≠ confName conf written) {old : List UInt8} {length : UInt32}
    (whole : old.length = length.toNat) :
    confGet after name old length = confGet conf name old length := by
  have wellFormed := rewritten.wellFormed
  have kept := rewritten.kept
  have before : 6 ≤ conf.length := by
    rw [wellFormed.size]
    decide
  have later : 6 ≤ after.length := by
    rw [kept.size]
    decide
  rcases first_or_none conf name with ⟨index, first⟩ | absent
  · obtain ⟨listed, rfl⟩ := wellFormed.isFirst_iff.mp first
    have differ : index ≠ written := fun own => other (own ▸ rfl)
    have listedAfter : index < confCount after := by
      rw [rewritten.count]
      exact listed
    obtain ⟨header, name, stored⟩ := rewritten.head listed
    have entry := rewritten.entry listed
    have nameLength := wellFormed.nameLength listed
    rcases known : confType (confHeader conf index) with _ | type
    · have found := confFind_first before (wellFormed.scannable _) first
      have again := confFind_first later (kept.scannable (confName conf index))
        (kept.isFirst_iff.mpr ⟨listedAfter, name⟩)
      have inside := wellFormed.nameInside listed
      have unknown : confType (confByte after (confEntry after index)) = none := by
        rw [← known, ← header]
        rfl
      rw [(conf_unknown found (by omega) known old length).1,
        (conf_unknown again (by rw [entry, rewritten.same.length]; omega) unknown old length).1]
    · have found := wellFormed.found listed known
      have again := kept.found listedAfter (header ▸ known)
      rw [name, entry] at again
      have payload := confPayload_of_type nameLength known
      have size := confPayloadSize_of_type known
      have inside := wellFormed.inside index listed
      unfold confEnd at inside
      rw [found.get whole, again.get whole, stored _ type nameLength known, payload, ← size,
        loadBytes_slice inside, loadBytes_slice (by rw [rewritten.same.length]; exact inside),
        rewritten.same.length]
      have slice : (after.drop (confHead conf index)).take (confPayloadSize conf index) =
          (conf.drop (confHead conf index)).take (confPayloadSize conf index) := by
        apply rewritten.same.slice
        have head := confEntry_lt_head conf index
        have outside := rewritten.outside listed differ
        unfold confEnd at outside
        omega
      rw [slice]
  · have none : ∀ index < confCount after, ¬ ConfMatches after name index := by
      intro index listedAfter named
      have listed : index < confCount conf := by
        rw [← rewritten.count]
        exact listedAfter
      apply absent index listed
      rw [wellFormed.matches_iff listed, ← (rewritten.head listed).2.1]
      exact (kept.matches_iff listedAfter).mp named
    rw [(conf_absent (confFind_none before (wellFormed.scannable _) absent) old length).1,
      (conf_absent (confFind_none later (kept.scannable _) none) old length).1]

/-- A write of the stored length is read back, and nothing else changes. -/
structure WritesEntry (conf name buffer : List UInt8) (start : Nat) (length : UInt32)
    (after : List UInt8) : Prop where
  set : confSet conf name buffer length = .ok ((length.toNat : Int), after)
  get : ∀ old, old.length = buffer.length →
    confGet after name old length = .ok ((length.toNat : Int), buffer)
  others : ∀ other ≠ name, ∀ old size, old.length = UInt32.toNat size →
    confGet after other old size = confGet conf other old size
  bytes : SameOutside start buffer.length conf after

theorem WellFormed.writes {conf buffer : List UInt8} (wellFormed : WellFormed conf) {index : Nat}
    {type : ConfType} {length : UInt32} (listed : index < confCount conf)
    (known : confType (confHeader conf index) = some type)
    (stored : buffer.length = confStored conf (confName conf index) (confEntry conf index) type)
    (whole : buffer.length = length.toNat) :
    ∃ after, WritesEntry conf (confName conf index) buffer (confHead conf index) length after := by
  have found := wellFormed.found listed known
  have nameLength := wellFormed.nameLength listed
  have payload := confPayload_of_type nameLength known
  have size := confPayloadSize_of_type known
  have inside := wellFormed.inside index listed
  unfold confEnd at inside
  have room : confHead conf index + buffer.length ≤ conf.length := by omega
  obtain ⟨after, copied⟩ := storeBytes_ok_iff.mpr room
  have same := sameOutside_store copied
  have rewritten : Rewritten conf after index := by
    refine ⟨wellFormed, listed, ?_⟩
    rw [size, ← stored]
    exact same
  have listedAfter : index < confCount after := by
    rw [rewritten.count]
    exact listed
  obtain ⟨header, name, storedAfter⟩ := rewritten.head listed
  have again := rewritten.kept.found listedAfter (header ▸ known)
  rw [name, rewritten.entry listed] at again
  refine ⟨after, ?_, ?_, fun other differ old size whole => rewritten.get_other differ whole, same⟩
  · rw [found.set buffer length, payload, ← stored, if_pos (by omega), if_pos (by omega),
      loadBytes_slice (by omega), List.drop_zero, List.take_length]
    dsimp only [bind, Except.bind]
    rw [copied, whole]
    rfl
  · intro old sized
    have read : loadBytes after (confHead conf index) buffer.length = .ok buffer := by
      rw [loadBytes_slice (by rw [same.length]; exact room), slice_store copied]
    have put (start : List UInt8) (full : start.length = buffer.length) :
        storeBytes start 0 buffer = .ok buffer := by
      unfold storeBytes Bytes.storeBytes
      rw [if_pos (by omega)]
      simp [full, orFault]
    have cleared : (if type.lengthSize = 0 then List.replicate length.toNat 0
        else old : List UInt8).length = buffer.length := by
      split
      · rw [List.length_replicate, whole]
      · exact sized
    rw [again.get (sized.trans whole), payload, storedAfter _ type nameLength known, ← stored,
      if_pos (by rw [same.length]; omega), if_pos (by omega), read]
    dsimp only [bind, Except.bind]
    rw [put _ cleared, whole]
    rfl

/-- What can be written is read back; what cannot leaves the file as it is. -/
theorem conf_set_then_get {conf : List UInt8} (wellFormed : WellFormed conf)
    {name buffer : List UInt8} {length : UInt32} (whole : buffer.length = length.toNat) :
    (∀ index < confCount conf, ∀ type, confName conf index = name →
      confType (confHeader conf index) = some type →
      buffer.length = confStored conf name (confEntry conf index) type →
      ∃ after, WritesEntry conf name buffer (confPayload name (confEntry conf index) type) length
        after) ∧
    ((∀ index < confCount conf, ∀ type, confName conf index = name →
      confType (confHeader conf index) = some type →
      confStored conf name (confEntry conf index) type < buffer.length) →
      ∃ error < 0, confSet conf name buffer length = .ok (error, conf)) := by
  constructor
  · rintro index listed type rfl known stored
    rw [confPayload_of_type (wellFormed.nameLength listed) known]
    exact wellFormed.writes listed known stored whole
  · intro longer
    have size : 6 ≤ conf.length := by
      rw [wellFormed.size]
      decide
    rcases names_or_refused size (wellFormed.scannable name) buffer length with
      ⟨entry, type, index, first, rfl, known⟩ | ⟨-, error, negative, -, set⟩
    · obtain ⟨listed, rfl⟩ := wellFormed.isFirst_iff.mp first
      have found := wellFormed.found listed known
      have inside := wellFormed.inside index listed
      have end_ := confHead_le_end conf index
      have more := longer index listed type rfl known
      refine ⟨confEtoobig, by decide, ?_⟩
      rw [found.set buffer length, confPayload_of_type (wellFormed.nameLength listed) known,
        if_pos (by omega), if_neg (by omega)]
    · exact ⟨error, negative, set⟩

theorem smallArray_name : confName smallArray 0 = [0x41] := by
  obtain ⟨-, entry, header⟩ := smallArray_entry
  unfold confName
  rw [header, entry]
  rfl

theorem smallArray_wellFormed : WellFormed smallArray := by
  obtain ⟨count, entry, header⟩ := smallArray_entry
  have length : smallArray.length = 0x4000 := confFile_length (by decide)
  have head : confHead smallArray 0 = 11 := by
    unfold confHead
    rw [header, entry]
    rfl
  have size : confPayloadSize smallArray 0 = 2 := by
    rw [confPayloadSize_of_type (by rw [header]; rfl), smallArray_name, entry]
    exact smallArray_stored
  have only {index : Nat} (listed : index < confCount smallArray) : index = 0 := by omega
  refine ⟨length, by omega, ?_, ?_, ?_, ?_⟩
  · intro index listed
    rw [only listed, confEnd, head, size]
    omega
  · intro one listed two also differ
    exact absurd ((only listed).trans (only also).symm) differ
  · intro index listed
    rw [only listed, count, entry]
    exact Or.inl (Nat.le_refl _)
  · intro one listed two also differ
    exact absurd ((only listed).trans (only also).symm) differ

/-- Two bytes written to the array. -/
theorem conf_set_then_get_array : ∃ after, confSet smallArray [0x41] [3, 4] 2 = .ok (2, after) ∧
    confGet after [0x41] [0, 0] 2 = .ok (2, [3, 4]) := by
  obtain ⟨count, entry, header⟩ := smallArray_entry
  obtain ⟨after, writes⟩ := (conf_set_then_get smallArray_wellFormed
    (show ([3, 4] : List UInt8).length = (2 : UInt32).toNat from rfl)).1 0 (by omega) .smallarray
      smallArray_name (by rw [header]; rfl) (by rw [entry]; exact smallArray_stored.symm)
  exact ⟨after, writes.set, writes.get [0, 0] rfl⟩

end Fakemote
