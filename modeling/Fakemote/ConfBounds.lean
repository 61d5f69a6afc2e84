import Fakemote.ConfDirectory

/-! Which configuration files `conf.c` can be used on without an access outside the file or the
caller's buffer. -/

namespace Fakemote

open Bytes

theorem storeBytes_ok_iff {buffer bytes : List UInt8} {offset : Nat} :
    (∃ result, storeBytes buffer offset bytes = .ok result) ↔
      offset + bytes.length ≤ buffer.length := by
  unfold storeBytes Bytes.storeBytes
  by_cases room : offset + bytes.length ≤ buffer.length
  · rw [if_pos room]
    exact ⟨fun _ => room, fun _ => ⟨_, rfl⟩⟩
  · rw [if_neg room]
    refine ⟨fun ⟨_, run⟩ => ?_, fun inside => absurd inside room⟩
    cases run

theorem copy_ok_iff {source target : List UInt8} {from_ to_ count : Nat} {value : Int} :
    (∃ result, (do
        let data ← loadBytes source from_ count
        let after ← storeBytes target to_ data
        return (value, after) : Except Fault (Int × List UInt8)) = .ok result) ↔
      from_ + count ≤ source.length ∧ to_ + count ≤ target.length := by
  by_cases readable : from_ + count ≤ source.length
  · have length : ((source.drop from_).take count).length = count := by
      rw [List.length_take, List.length_drop]
      omega
    rw [loadBytes_slice readable]
    dsimp only [bind, Except.bind]
    constructor
    · intro ⟨result, run⟩
      rcases stored : storeBytes target to_ ((source.drop from_).take count) with fault | after
      · rw [stored] at run
        cases run
      · have room := storeBytes_ok_iff.mp ⟨after, stored⟩
        rw [length] at room
        exact ⟨readable, room⟩
    · intro ⟨_, room⟩
      rw [← length] at room
      obtain ⟨after, stored⟩ := storeBytes_ok_iff.mpr room
      rw [stored]
      exact ⟨_, rfl⟩
  · rw [loadBytes_beyond (Nat.lt_of_not_le readable)]
    refine ⟨fun ⟨_, run⟩ => ?_, fun inside => absurd inside.1 readable⟩
    cases run

/-- The entry that a name has, when its type is implemented. -/
def Names (conf name : List UInt8) (entry : Nat) (type : ConfType) : Prop :=
  ∃ index, IsFirst conf name index ∧ confEntry conf index = entry ∧
    confType (confByte conf entry) = some type

def EntryFits (conf name : List UInt8) (fits : Nat → ConfType → Prop) : Prop :=
  ∀ entry type, Names conf name entry type → fits entry type

/-- Length and payload are inside the file as far as they are used. -/
def GetFits (conf name : List UInt8) (length : Nat) (entry : Nat) (type : ConfType) : Prop :=
  confPayload name entry type ≤ conf.length ∧
    (confStored conf name entry type ≤ length →
      confPayload name entry type + confStored conf name entry type ≤ conf.length)

/-- A write copies the stored length, so the buffer must have it. -/
def SetFits (conf name : List UInt8) (length : Nat) (entry : Nat) (type : ConfType) : Prop :=
  confPayload name entry type ≤ conf.length ∧
    (length ≤ confStored conf name entry type →
      confStored conf name entry type = length ∧
      confPayload name entry type + length ≤ conf.length)

theorem Names.found {conf name : List UInt8} {entry : Nat} {type : ConfType}
    (size : 6 ≤ conf.length) (scannable : Scannable conf name) (names : Names conf name entry type) :
    Found conf name entry type := by
  obtain ⟨index, first, rfl, known⟩ := names
  exact ⟨confFind_first size scannable first, first.named.inside, known⟩

/-- A name has an entry of a known type, or reading and writing it end at once. -/
theorem names_or_refused {conf name : List UInt8} (size : 6 ≤ conf.length)
    (scannable : Scannable conf name) (buffer : List UInt8) (length : UInt32) :
    (∃ entry type, Names conf name entry type) ∨
      (∀ entry type, ¬ Names conf name entry type) ∧
        ∃ error < 0, confGet conf name buffer length = .ok (error, buffer) ∧
          confSet conf name buffer length = .ok (error, conf) := by
  rcases first_or_none conf name with ⟨index, first⟩ | absent
  · have inside := first.named.inside
    have found := confFind_first size scannable first
    rcases known : confType (confByte conf (confEntry conf index)) with _ | type
    · refine Or.inr ⟨?_, confEnotimpl, by decide,
        conf_unknown found (by omega) known buffer length⟩
      intro entry type ⟨other, named, same, implemented⟩
      rw [first.unique named, same, implemented] at known
      cases known
    · exact Or.inl ⟨_, type, index, first, rfl, known⟩
  · refine Or.inr ⟨?_, confEnoent, by decide,
      conf_absent (confFind_none size scannable absent) buffer length⟩
    intro entry type ⟨index, first, _, _⟩
    exact absent index first.listed first.named

theorem Names.unique {conf name : List UInt8} {one two : Nat} {first second : ConfType}
    (here : Names conf name one first) (there : Names conf name two second) :
    one = two ∧ first = second := by
  obtain ⟨index, named, rfl, known⟩ := here
  obtain ⟨other, same, rfl, also⟩ := there
  rw [named.unique same] at known ⊢
  exact ⟨rfl, Option.some.inj (known.symm.trans also)⟩

theorem entryFits_iff {conf name : List UInt8} {entry : Nat} {type : ConfType}
    {fits : Nat → ConfType → Prop} (names : Names conf name entry type) :
    EntryFits conf name fits ↔ fits entry type := by
  refine ⟨fun all => all entry type names, fun holds other kind also => ?_⟩
  obtain ⟨rfl, rfl⟩ := names.unique also
  exact holds

section Access

variable {conf name buffer : List UInt8} {length : UInt32}

theorem confGet_ok_iff (size : 6 ≤ conf.length) (whole : buffer.length = length.toNat) :
    (∃ result, confGet conf name buffer length = .ok result) ↔
      Scannable conf name ∧ EntryFits conf name (GetFits conf name length.toNat) := by
  by_cases scannable : Scannable conf name
  · rcases names_or_refused size scannable buffer length with ⟨entry, type, names⟩ |
      ⟨none, error, -, get, -⟩
    · rw [entryFits_iff names, (names.found size scannable).get whole]
      unfold GetFits
      by_cases header : confPayload name entry type ≤ conf.length
      · rw [if_pos header]
        by_cases fits : confStored conf name entry type ≤ length.toNat
        · have cleared : (if type.lengthSize = 0 then List.replicate length.toNat 0
              else buffer : List UInt8).length = length.toNat := by
            split
            · exact List.length_replicate
            · exact whole
          rw [if_pos fits, copy_ok_iff, cleared]
          constructor
          · exact fun inside => ⟨scannable, header, fun _ => inside.1⟩
          · intro ⟨_, _, payload⟩
            exact ⟨payload fits, by omega⟩
        · rw [if_neg fits]
          exact ⟨fun _ => ⟨scannable, header, fun few => absurd few fits⟩, fun _ => ⟨_, rfl⟩⟩
      · rw [if_neg header]
        refine ⟨fun ⟨_, run⟩ => ?_, fun inside => absurd inside.2.1 header⟩
        cases run
    · exact ⟨fun _ => ⟨scannable, fun entry type names => absurd names (none entry type)⟩,
        fun _ => ⟨_, get⟩⟩
  · refine ⟨fun ⟨result, run⟩ => ?_, fun inside => absurd inside.1 scannable⟩
    rcases find : confFind conf name with fault | found
    · unfold confGet at run
      rw [find] at run
      cases run
    · exact absurd ((confFind_ok_iff size).mp ⟨found, find⟩) scannable

theorem confSet_ok_iff (size : 6 ≤ conf.length) (whole : buffer.length = length.toNat) :
    (∃ result, confSet conf name buffer length = .ok result) ↔
      Scannable conf name ∧ EntryFits conf name (SetFits conf name length.toNat) := by
  by_cases scannable : Scannable conf name
  · rcases names_or_refused size scannable buffer length with ⟨entry, type, names⟩ |
      ⟨none, error, -, -, set⟩
    · rw [entryFits_iff names, (names.found size scannable).set buffer length]
      unfold SetFits
      by_cases header : confPayload name entry type ≤ conf.length
      · rw [if_pos header]
        by_cases fits : length.toNat ≤ confStored conf name entry type
        · rw [if_pos fits, copy_ok_iff, whole]
          constructor
          · intro ⟨source, target⟩
            exact ⟨scannable, header, fun _ => ⟨by omega, by omega⟩⟩
          · intro ⟨_, _, payload⟩
            obtain ⟨same, room⟩ := payload fits
            exact ⟨by omega, by omega⟩
        · rw [if_neg fits]
          exact ⟨fun _ => ⟨scannable, header, fun few => absurd few fits⟩, fun _ => ⟨_, rfl⟩⟩
      · rw [if_neg header]
        refine ⟨fun ⟨_, run⟩ => ?_, fun inside => absurd inside.2.1 header⟩
        cases run
    · exact ⟨fun _ => ⟨scannable, fun entry type names => absurd names (none entry type)⟩,
        fun _ => ⟨_, set⟩⟩
  · refine ⟨fun ⟨result, run⟩ => ?_, fun inside => absurd inside.1 scannable⟩
    rcases find : confFind conf name with fault | found
    · unfold confSet at run
      rw [find] at run
      cases run
    · exact absurd ((confFind_ok_iff size).mp ⟨found, find⟩) scannable

end Access

/-- The functions stay inside the file and the buffer exactly on directories that can be searched
for the name, with an entry that fits, and with a buffer of the stored length for a write. -/
theorem conf_bounded_iff {conf : List UInt8} (size : conf.length = confSize) (name : List UInt8)
    {buffer : List UInt8} {length : UInt32} (whole : buffer.length = length.toNat) :
    ((∃ found, confFind conf name = .ok found) ∧
        (∃ result, confGet conf name buffer length = .ok result) ∧
        ∃ result, confSet conf name buffer length = .ok result) ↔
      Scannable conf name ∧ EntryFits conf name (GetFits conf name length.toNat) ∧
        EntryFits conf name (SetFits conf name length.toNat) := by
  have enough : 6 ≤ conf.length := by
    rw [size]
    decide
  rw [confFind_ok_iff enough, confGet_ok_iff enough whole, confSet_ok_iff enough whole]
  constructor
  · exact fun ⟨scannable, get, set⟩ => ⟨scannable, get.2, set.2⟩
  · exact fun ⟨scannable, get, set⟩ => ⟨scannable, ⟨scannable, get⟩, scannable, set⟩

def confFile (start : List UInt8) : List UInt8 :=
  start ++ List.replicate (confSize - start.length) 0

theorem confFile_length {start : List UInt8} (short : start.length ≤ confSize) :
    (confFile start).length = confSize := by
  simp [confFile, Nat.add_sub_cancel' short]

theorem confFile_byte (start : List UInt8) (offset : Nat) :
    confByte (confFile start) offset = start.getD offset 0 := by
  unfold confByte confFile
  rw [List.getD_eq_getElem?_getD, List.getD_eq_getElem?_getD, List.getElem?_append]
  split
  · rfl
  · rename_i beyond
    rw [List.getElem?_replicate, List.getElem?_eq_none (Nat.le_of_not_lt beyond)]
    split <;> rfl

theorem confFile_word (start : List UInt8) (offset : Nat) :
    confWord (confFile start) offset =
      (word16 (start.getD offset 0) (start.getD (offset + 1) 0)).toNat := by
  unfold confWord
  rw [confFile_byte, confFile_byte]

/-- An array of two bytes with the name "A". -/
def smallArray : List UInt8 := confFile [0, 0, 0, 0, 0, 1, 0, 8, 0x40, 0x41, 1, 7, 9]

theorem smallArray_entry : confCount smallArray = 1 ∧ confEntry smallArray 0 = 8 ∧
    confHeader smallArray 0 = 0x40 := by
  have entry : confEntry smallArray 0 = 8 := confFile_word _ 6
  refine ⟨confFile_word _ 4, entry, ?_⟩
  rw [confHeader, entry]
  exact confFile_byte _ 8

theorem smallArray_names : Names smallArray [0x41] 8 .smallarray := by
  obtain ⟨count, entry, header⟩ := smallArray_entry
  refine ⟨0, ⟨by omega, ⟨?_, ?_⟩, fun earlier before => by omega⟩, entry, ?_⟩
  · rw [header]
    rfl
  · rw [entry]
    rfl
  · rw [← entry]
    change confType (confHeader smallArray 0) = _
    rw [header]
    rfl

theorem smallArray_stored : confStored smallArray [0x41] 8 .smallarray = 2 := by
  change (confByte smallArray 10).toNat + 1 = 2
  rw [smallArray, confFile_byte]
  rfl

/-- The array with a buffer of its length. -/
theorem conf_bounded_iff_array :
    (∃ found, confFind smallArray [0x41] = .ok found) ∧
      (∃ result, confGet smallArray [0x41] [5, 6] 2 = .ok result) ∧
      ∃ result, confSet smallArray [0x41] [5, 6] 2 = .ok result := by
  obtain ⟨count, entry, -⟩ := smallArray_entry
  have size : smallArray.length = 0x4000 := confFile_length (by decide)
  have payload : confPayload [0x41] 8 .smallarray = 11 := rfl
  refine (conf_bounded_iff size [0x41] rfl).mpr ⟨?_, ?_, ?_⟩
  · intro index listed _
    have only : index = 0 := by omega
    subst only
    refine ⟨by omega, by omega, fun _ k short _ => ?_⟩
    have one : k < 1 := short
    omega
  · rw [entryFits_iff smallArray_names, GetFits, smallArray_stored]
    omega
  · rw [entryFits_iff smallArray_names, SetFits, smallArray_stored]
    exact ⟨by omega, fun _ => ⟨rfl, by rw [payload, size]; decide⟩⟩

def entryOutside : List UInt8 := confFile [0, 0, 0, 0, 0, 1, 0xFF, 0xFF]

/-- A directory with an entry outside the file, and a write from a buffer that is too short. -/
theorem conf_unbounded :
    (∃ conf name, conf.length = confSize ∧ ¬ ∃ found, confFind conf name = .ok found) ∧
    ∃ conf name buffer length, conf.length = confSize ∧ buffer.length = UInt32.toNat length ∧
      ¬ ∃ result, confSet conf name buffer length = .ok result := by
  constructor
  · refine ⟨entryOutside, [0x41], confFile_length (by decide), ?_⟩
    have size : entryOutside.length = confSize := confFile_length (by decide)
    rw [confFind_ok_iff (by rw [size]; decide)]
    intro scannable
    have count : confCount entryOutside = 1 := confFile_word _ 4
    have entry : confEntry entryOutside 0 = 0xFFFF := confFile_word _ 6
    have header := (scannable 0 (by omega) fun earlier before => by omega).header
    rw [entry, size] at header
    exact absurd header (by decide)
  · refine ⟨smallArray, [0x41], [5], 1, confFile_length (by decide), rfl, ?_⟩
    have size : smallArray.length = confSize := confFile_length (by decide)
    rw [confSet_ok_iff (by rw [size]; decide) rfl]
    intro ⟨_, fits⟩
    have copied := (fits 8 .smallarray smallArray_names).2
    rw [smallArray_stored] at copied
    exact absurd (copied (by decide)).1 (by decide)

end Fakemote
