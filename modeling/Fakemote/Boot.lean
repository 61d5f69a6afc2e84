import Fakemote.ConfRoundTrip
import Fakemote.ConfPads

/-! What `main` does with SYSCONF when it starts: it reads the file, takes the position of the
sensor bar from `BT.BAR`, and writes the file back with the fake Wiimotes in `BT.DINF`. -/

namespace Fakemote

open Bytes Records GreedyMatch

/-- How a read or a write of the file went: how many bytes went through at most, and the error that
it returned if it failed. -/
structure FileAnswer where
  bytes : Nat
  error : Option { code : Int // code < 0 }

def FileAnswer.result (answer : FileAnswer) (count : Nat) : Int :=
  match answer.error with
  | some code => code
  | none => count

structure FileAnswers where
  openRead : Int
  read : FileAnswer
  openWrite : Int
  write : FileAnswer

/-- The buffer is zero before. -/
def readConf (answers : FileAnswers) (file : List UInt8) : Int × List UInt8 :=
  if answers.openRead < 0 then (answers.openRead, List.replicate confSize 0)
  else
    let data := file.take (min answers.read.bytes confSize)
    (answers.read.result data.length, data ++ List.replicate (confSize - data.length) 0)

def writeConf (answers : FileAnswers) (buffer file : List UInt8) : Int × List UInt8 :=
  if answers.openWrite < 0 then (answers.openWrite, file)
  else
    let count := min answers.write.bytes confSize
    (answers.write.result count, torn count buffer file)

/-- "BT.DINF" -/
def btDinf : List UInt8 := [0x42, 0x54, 0x2E, 0x44, 0x49, 0x4E, 0x46]

/-- "BT.BAR" -/
def btBar : List UInt8 := [0x42, 0x54, 0x2E, 0x42, 0x41, 0x52]

/-- `patch_conf_bt_dinf`, with the file that `write_conf` leaves. -/
def patchConfFile (answers : FileAnswers) (buffer file : List UInt8) :
    Except Fault (PatchResult × List UInt8) := do
  let (ret, bytes) ← confGet buffer btDinf (List.replicate sizeofConfPads 0) 1121
  if ret ≠ sizeofConfPads then return (.einval, file)
  let pads := ConfPadsSetting.ofBytes bytes
  if confPadMaxRegistered < pads.numRegistered.toNat then throw .outOfBounds
  let pairedCount := countFrom fakeBdaddr 0 pads.addresses
  if 2 ≤ pairedCount then return (.ok, file)
  -- the result of `conf_set` is not looked at
  let (_, buffer) ← confSet buffer btDinf (pads.addFakes (2 - pairedCount)).bytes 1121
  let (ret, file) := writeConf answers buffer file
  return (if ret = confSize then .ok else .einval, file)

/-- What the start leaves: `ok` when `main` goes on to the patchers, and what
`bm_set_sensor_bar_position_top` got if it was called. -/
structure Start where
  result : PatchResult
  sensorBarPositionTop : Option Bool
  file : List UInt8

/-- The part of `main` before the patchers. -/
def mainConf (answers : FileAnswers) (file : List UInt8) : Except Fault Start := do
  let (ret, buffer) := readConf answers file
  if ret ≠ confSize then return ⟨.einval, none, file⟩
  let (ret, top) ← confGet buffer btBar [0] 1
  if ret ≠ 1 then return ⟨.einval, none, file⟩
  let (result, file) ← patchConfFile answers buffer file
  return ⟨result, some (confByte top 0 ≠ 0), file⟩

def starts : List FileAnswers → List UInt8 → Except Fault (List UInt8)
  | [], file => .ok file
  | answers :: rest, file => do
      let start ← mainConf answers file
      starts rest start.file

/-- The entry `BT.DINF` of a file, when it is as long as the table. -/
structure TableAt (file : List UInt8) (index : Nat) (type : ConfType) : Prop where
  wellFormed : WellFormed file
  listed : index < confCount file
  name : confName file index = btDinf
  known : confType (confHeader file index) = some type
  stored : confStored file btDinf (confEntry file index) type = sizeofConfPads

def tableBytes (file : List UInt8) (index : Nat) : List UInt8 :=
  (file.drop (confHead file index)).take sizeofConfPads

theorem cleared_length :
    (List.replicate sizeofConfPads 0 : List UInt8).length = (1121 : UInt32).toNat :=
  List.length_replicate

namespace TableAt

variable {file : List UInt8} {index : Nat} {type : ConfType}

theorem inside (table : TableAt file index type) :
    confHead file index + sizeofConfPads ≤ file.length := by
  have inside := table.wellFormed.inside index table.listed
  rw [confEnd, confPayloadSize_of_type table.known, table.name, table.stored] at inside
  exact inside

theorem bytes_length (table : TableAt file index type) :
    (tableBytes file index).length = sizeofConfPads := by
  have inside := table.inside
  unfold tableBytes
  rw [List.length_take, List.length_drop]
  omega

theorem get (table : TableAt file index type) :
    confGet file btDinf (List.replicate sizeofConfPads 0) 1121 =
      .ok (sizeofConfPads, tableBytes file index) := by
  have inside := table.inside
  have found := table.wellFormed.found table.listed table.known
  have payload := confPayload_of_type (table.wellFormed.nameLength table.listed) table.known
  have put (cleared : List UInt8) (full : cleared.length = sizeofConfPads) :
      storeBytes cleared 0 (tableBytes file index) = .ok (tableBytes file index) := by
    unfold storeBytes Bytes.storeBytes
    rw [if_pos (by rw [table.bytes_length]; omega)]
    simp [full, table.bytes_length, orFault]
  have cleared : (if type.lengthSize = 0 then List.replicate (1121 : UInt32).toNat 0
      else List.replicate sizeofConfPads 0 : List UInt8).length = sizeofConfPads := by
    split
    · exact List.length_replicate
    · exact List.length_replicate
  rw [← table.name, found.get cleared_length, payload, if_pos (by omega), table.name, table.stored,
    if_pos (by decide), loadBytes_slice inside]
  dsimp only [bind, Except.bind]
  rw [show (file.drop (confHead file index)).take sizeofConfPads = tableBytes file index from rfl,
    put _ cleared]
  rfl

theorem set (table : TableAt file index type) {bytes : List UInt8}
    (size : bytes.length = sizeofConfPads) :
    ∃ after, storeBytes file (confHead file index) bytes = .ok after ∧
      confSet file btDinf bytes 1121 = .ok (sizeofConfPads, after) := by
  have inside := table.inside
  have found := table.wellFormed.found table.listed table.known
  have payload := confPayload_of_type (table.wellFormed.nameLength table.listed) table.known
  obtain ⟨after, copied⟩ := storeBytes_ok_iff.mpr (show confHead file index + bytes.length ≤
    file.length by omega)
  refine ⟨after, copied, ?_⟩
  rw [← table.name, found.set bytes 1121, payload, if_pos (by omega), table.name, table.stored,
    if_pos (by decide), loadBytes_slice (by omega), List.drop_zero, ← size, List.take_length]
  dsimp only [bind, Except.bind]
  rw [copied]
  rfl

theorem rewritten (table : TableAt file index type) {bytes after : List UInt8}
    (size : bytes.length = sizeofConfPads)
    (copied : storeBytes file (confHead file index) bytes = .ok after) :
    Rewritten file after index := by
  refine ⟨table.wellFormed, table.listed, ?_⟩
  rw [confPayloadSize_of_type table.known, table.name, table.stored, ← size]
  exact sameOutside_store copied

theorem stays (table : TableAt file index type) {bytes after : List UInt8}
    (size : bytes.length = sizeofConfPads)
    (copied : storeBytes file (confHead file index) bytes = .ok after) :
    TableAt after index type := by
  have rewritten := table.rewritten size copied
  obtain ⟨header, name, stored⟩ := rewritten.head table.listed
  have length := table.wellFormed.nameLength table.listed
  refine ⟨rewritten.kept, ?_, name.trans table.name, header ▸ table.known, ?_⟩
  · rw [rewritten.count]
    exact table.listed
  · rw [rewritten.entry table.listed, stored btDinf type (table.name ▸ length) table.known]
    exact table.stored

theorem bytes_written (table : TableAt file index type) {bytes after : List UInt8}
    (size : bytes.length = sizeofConfPads)
    (copied : storeBytes file (confHead file index) bytes = .ok after) :
    tableBytes after index = bytes := by
  unfold tableBytes
  rw [(table.rewritten size copied).headAt table.listed, ← size]
  exact slice_store copied

end TableAt

theorem WellFormed.gets {file : List UInt8} (wellFormed : WellFormed file) (name : List UInt8)
    {buffer : List UInt8} {length : UInt32} (whole : buffer.length = length.toNat) :
    ∃ ret bytes, confGet file name buffer length = .ok (ret, bytes) ∧
      (ret < 0 ∨ ∃ index < confCount file, ∃ type, confName file index = name ∧
        confType (confHeader file index) = some type ∧
        ret = confStored file name (confEntry file index) type) := by
  have size : 6 ≤ file.length := by
    rw [wellFormed.size]
    decide
  rcases names_or_refused size (wellFormed.scannable name) buffer length with
    ⟨entry, type, index, first, rfl, known⟩ | ⟨-, error, negative, refused, -⟩
  · obtain ⟨listed, rfl⟩ := wellFormed.isFirst_iff.mp first
    have inside := wellFormed.inside index listed
    rw [confEnd, confPayloadSize_of_type known] at inside
    have payload := confPayload_of_type (wellFormed.nameLength listed) known
    rw [(wellFormed.found listed known).get whole, payload, if_pos (by omega)]
    by_cases fits : confStored file (confName file index) (confEntry file index) type ≤ length.toNat
    · have cleared : (if type.lengthSize = 0 then List.replicate length.toNat 0
          else buffer : List UInt8).length = length.toNat := by
        split
        · exact List.length_replicate
        · exact whole
      obtain ⟨after, copied⟩ := storeBytes_ok_iff.mpr (show 0 + (List.take
        (confStored file (confName file index) (confEntry file index) type)
          (file.drop (confHead file index))).length ≤ (if type.lengthSize = 0 then
            List.replicate length.toNat 0 else buffer : List UInt8).length by
        rw [List.length_take, cleared]
        omega)
      rw [if_pos fits, loadBytes_slice inside]
      dsimp only [bind, Except.bind]
      rw [copied]
      exact ⟨_, _, rfl, Or.inr ⟨index, listed, type, rfl, known, rfl⟩⟩
    · rw [if_neg fits]
      exact ⟨_, _, rfl, Or.inl (by decide)⟩
  · exact ⟨error, _, refused, Or.inl negative⟩

def HoldsPads (file : List UInt8) (pads : ConfPadsSetting) : Prop :=
  ∃ bytes, confGet file btDinf (List.replicate sizeofConfPads 0) 1121 =
    .ok (sizeofConfPads, bytes) ∧ pads = ConfPadsSetting.ofBytes bytes

theorem TableAt.holds {file : List UInt8} {index : Nat} {type : ConfType}
    (table : TableAt file index type) :
    HoldsPads file (ConfPadsSetting.ofBytes (tableBytes file index)) :=
  ⟨_, table.get, rfl⟩

theorem HoldsPads.table {file : List UInt8} {pads : ConfPadsSetting} (holds : HoldsPads file pads)
    (wellFormed : WellFormed file) : ∃ index type, TableAt file index type ∧
      pads = ConfPadsSetting.ofBytes (tableBytes file index) := by
  obtain ⟨bytes, read, rfl⟩ := holds
  obtain ⟨ret, same, got, negative | ⟨index, listed, type, name, known, stored⟩⟩ :=
    wellFormed.gets btDinf cleared_length
  · rw [read] at got
    cases got
    exact absurd negative (by decide)
  · rw [read] at got
    cases got
    have table : TableAt file index type :=
      ⟨wellFormed, listed, name, known, (Int.ofNat.inj stored).symm⟩
    have bytes := table.get
    rw [read] at bytes
    exact ⟨index, type, table, congrArg _ (Prod.mk.inj (Except.ok.inj bytes)).2⟩

/-- A write of the whole file that stops is a write of a part of what it changes. -/
theorem torn_store {file bytes after : List UInt8} {start : Nat} (written : Nat)
    (copied : storeBytes file start bytes = .ok after) :
    ∃ part, storeBytes file start (torn part bytes ((file.drop start).take bytes.length)) =
      .ok (torn written after file) := by
  have room := storeBytes_ok_iff.mp ⟨after, copied⟩
  have taken : (file.take start).length = start := by
    rw [List.length_take]
    omega
  have same : bytes.length = ((file.drop start).take bytes.length).length := by
    rw [List.length_take, List.length_drop]
    omega
  have split : file = file.take start ++ ((file.drop start).take bytes.length ++
      file.drop (start + bytes.length)) := by
    rw [← List.drop_drop, List.take_append_drop, List.take_append_drop]
  unfold storeBytes Bytes.storeBytes at copied
  rw [if_pos room] at copied
  cases copied
  have pieces : torn written (file.take start ++ (bytes ++ file.drop (start + bytes.length)))
      (file.take start ++ ((file.drop start).take bytes.length ++
        file.drop (start + bytes.length))) = file.take start ++
      (torn (written - start) bytes ((file.drop start).take bytes.length) ++
        file.drop (start + bytes.length)) := by
    rw [torn_append written rfl, torn_append _ same, torn_self, torn_self, taken]
  refine ⟨written - start, ?_⟩
  have length := torn_length (written - start) same
  unfold storeBytes Bytes.storeBytes
  rw [length, ← same, if_pos room]
  rw [← split, ← List.append_assoc] at pieces
  rw [pieces, List.append_assoc]
  rfl

theorem writeConf_torn (answers : FileAnswers) (buffer file : List UInt8) :
    ∃ written, (writeConf answers buffer file).2 = torn written buffer file := by
  unfold writeConf
  split
  · exact ⟨0, rfl⟩
  · exact ⟨_, rfl⟩

theorem readConf_whole {answers : FileAnswers} {file : List UInt8} (size : file.length = confSize)
    (whole : (readConf answers file).1 = confSize) : (readConf answers file).2 = file := by
  unfold readConf at whole ⊢
  split at whole
  case isTrue failed =>
      dsimp only at whole
      rw [confSize] at whole
      omega
  case isFalse opened =>
      rw [if_neg opened]
      dsimp only at whole ⊢
      unfold FileAnswer.result at whole
      split at whole
      case h_1 code _ =>
          have negative := code.property
          rw [confSize] at whole
          omega
      case h_2 =>
          have count := Int.ofNat.inj whole
          rw [count, Nat.sub_self, List.replicate_zero, List.append_nil]
          rw [List.length_take] at count
          exact List.take_of_length_le (by omega)

namespace TableAt

variable {file : List UInt8} {index : Nat} {type : ConfType}

/-- The patch of the file is the patch of its table: nothing is written when both fake Wiimotes are
there, and the new table is written when they are not. -/
theorem patch (table : TableAt file index type)
    (room : (ConfPadsSetting.ofBytes (tableBytes file index)).numRegistered.toNat ≤
      confPadMaxRegistered) (answers : FileAnswers) :
    let pads := ConfPadsSetting.ofBytes (tableBytes file index)
    let pairedCount := countFrom fakeBdaddr 0 pads.addresses
    if 2 ≤ pairedCount then patchConfFile answers file file = .ok (.ok, file)
    else ∃ new, storeBytes file (confHead file index) (pads.addFakes (2 - pairedCount)).bytes =
        .ok new ∧
      patchConfFile answers file file = .ok
        (if (writeConf answers new file).1 = confSize then .ok else .einval,
          (writeConf answers new file).2) := by
  intro pads pairedCount
  have fits : ¬ confPadMaxRegistered < pads.numRegistered.toNat := Nat.not_lt.mpr room
  unfold patchConfFile
  rw [table.get]
  dsimp only [bind, Except.bind]
  rw [if_neg (not_not_intro rfl), if_neg fits]
  by_cases two : 2 ≤ pairedCount
  · rw [if_pos two]
    exact if_pos two
  · rw [if_neg two]
    have size : (pads.addFakes (2 - pairedCount)).bytes.length = sizeofConfPads :=
      ConfPadsSetting.bytes_length (padFormat.read_length _ _ _)
    obtain ⟨new, copied, written⟩ := table.set size
    refine ⟨new, copied, ?_⟩
    dsimp only [pure, Except.pure]
    rw [if_neg two, written]

end TableAt

/-- What no start takes from the file. -/
structure KeepsSysconf (before after : List UInt8) : Prop where
  wellFormed : WellFormed after
  others : ∀ name ≠ btDinf, ∀ old size, old.length = UInt32.toNat size →
    confGet after name old size = confGet before name old size
  untouched : (∀ pads, ¬ HoldsPads before pads) → after = before
  pads : ∀ pads, HoldsPads before pads → ∃ later, HoldsPads after later ∧ pads.Keeps later

/-- The count of a table does not exceed the table. -/
def PadsRoom (file : List UInt8) : Prop :=
  ∀ pads, HoldsPads file pads → pads.numRegistered.toNat ≤ confPadMaxRegistered

namespace KeepsSysconf

variable {before later after : List UInt8}

theorem refl (wellFormed : WellFormed before) (room : PadsRoom before) :
    KeepsSysconf before before where
  wellFormed := wellFormed
  others _ _ _ _ _ := rfl
  untouched _ := rfl
  pads pads holds := ⟨pads, holds, .refl (room pads holds)⟩

theorem trans (first : KeepsSysconf before later) (second : KeepsSysconf later after) :
    KeepsSysconf before after where
  wellFormed := second.wellFormed
  others name other old size whole :=
    (second.others name other old size whole).trans (first.others name other old size whole)
  untouched none := by
    have same := first.untouched none
    rw [← same] at none
    exact (second.untouched none).trans same
  pads pads holds := by
    obtain ⟨middle, held, kept⟩ := first.pads pads holds
    obtain ⟨last, holds, keeps⟩ := second.pads middle held
    exact ⟨last, holds, kept.trans keeps⟩

theorem room (keeps : KeepsSysconf before after) (room : PadsRoom before) : PadsRoom after := by
  intro pads holds
  by_cases any : ∃ pads, HoldsPads before pads
  · obtain ⟨first, held⟩ := any
    obtain ⟨later, ⟨bytes, read, rfl⟩, kept⟩ := keeps.pads first held
    obtain ⟨same, again, rfl⟩ := holds
    rw [read] at again
    cases again
    exact kept.most
  · have same := keeps.untouched fun pads holds => any ⟨pads, holds⟩
    subst same
    exact room pads holds

end KeepsSysconf

theorem TableAt.keeps {file after : List UInt8} {index part count : Nat} {type : ConfType}
    (table : TableAt file index type)
    (room : (ConfPadsSetting.ofBytes (tableBytes file index)).numRegistered.toNat ≤
      confPadMaxRegistered) (few : count ≤ 2)
    (copied : storeBytes file (confHead file index) (torn part
      ((ConfPadsSetting.ofBytes (tableBytes file index)).addFakes count).bytes
        (tableBytes file index)) = .ok after) : KeepsSysconf file after := by
  have size : (torn part ((ConfPadsSetting.ofBytes (tableBytes file index)).addFakes count).bytes
      (tableBytes file index)).length = sizeofConfPads := by
    refine (torn_length part ?_).trans table.bytes_length
    rw [table.bytes_length]
    exact ConfPadsSetting.bytes_length (padFormat.read_length _ _ _)
  have rewritten := table.rewritten size copied
  have stays := table.stays size copied
  refine ⟨rewritten.kept, ?_, fun none => absurd table.holds (none _), ?_⟩
  · intro name other old size whole
    exact rewritten.get_other (table.name ▸ other) whole
  · rintro pads ⟨bytes, read, rfl⟩
    rw [table.get] at read
    cases read
    refine ⟨_, stays.holds, ?_⟩
    rw [table.bytes_written size copied]
    exact ConfPadsSetting.ofBytes_torn table.bytes_length room few part

theorem patchConfFile_keeps {file : List UInt8} (wellFormed : WellFormed file)
    (room : PadsRoom file) (answers : FileAnswers) :
    ∃ result after, patchConfFile answers file file = .ok (result, after) ∧
      KeepsSysconf file after := by
  by_cases any : ∃ pads, HoldsPads file pads
  · obtain ⟨pads, holds⟩ := any
    obtain ⟨index, type, table, rfl⟩ := holds.table wellFormed
    have fits := room _ holds
    have patch := table.patch fits answers
    dsimp only at patch
    split at patch
    case isTrue two => exact ⟨_, _, patch, .refl wellFormed room⟩
    case isFalse few =>
        obtain ⟨new, copied, run⟩ := patch
        obtain ⟨written, same⟩ := writeConf_torn answers new file
        obtain ⟨part, copied⟩ := torn_store written copied
        have size : ((ConfPadsSetting.ofBytes (tableBytes file index)).addFakes
            (2 - countFrom fakeBdaddr 0
              (ConfPadsSetting.ofBytes (tableBytes file index)).addresses)).bytes.length =
            sizeofConfPads := ConfPadsSetting.bytes_length (padFormat.read_length _ _ _)
        rw [size, ← same] at copied
        exact ⟨_, _, run, table.keeps fits (Nat.sub_le _ _) copied⟩
  · obtain ⟨ret, bytes, read, -⟩ := wellFormed.gets btDinf cleared_length
    have short : ret ≠ sizeofConfPads := fun same => any ⟨_, bytes, same ▸ read, rfl⟩
    refine ⟨.einval, file, ?_, .refl wellFormed fun pads holds => absurd ⟨pads, holds⟩ any⟩
    unfold patchConfFile
    rw [read]
    exact if_pos short

theorem mainConf_keeps {file : List UInt8} (wellFormed : WellFormed file) (room : PadsRoom file)
    (answers : FileAnswers) :
    ∃ start, mainConf answers file = .ok start ∧ KeepsSysconf file start.file := by
  have same : KeepsSysconf file file := .refl wellFormed room
  unfold mainConf
  dsimp only [bind, Except.bind]
  by_cases whole : (readConf answers file).1 = confSize
  · obtain ⟨ret, top, bar, -⟩ := wellFormed.gets btBar
      (show ([0] : List UInt8).length = (1 : UInt32).toNat from rfl)
    rw [if_neg (not_not_intro whole), readConf_whole wellFormed.size whole, bar]
    dsimp only
    by_cases known : ret ≠ 1
    · rw [if_pos known]
      exact ⟨_, rfl, same⟩
    · obtain ⟨result, after, run, keeps⟩ := patchConfFile_keeps wellFormed room answers
      rw [if_neg known, run]
      exact ⟨_, rfl, keeps⟩
  · rw [if_pos whole]
    exact ⟨_, rfl, same⟩

/-- However often the module is started, and however far each write of the file comes: the file
stays well-formed, every other item reads as before, and the table keeps its first eight devices. -/
theorem starts_keep_sysconf (answers : List FileAnswers) {file : List UInt8}
    (wellFormed : WellFormed file) (room : PadsRoom file) :
    ∃ after, starts answers file = .ok after ∧ KeepsSysconf file after := by
  induction answers generalizing file with
  | nil => exact ⟨file, rfl, .refl wellFormed room⟩
  | cons first rest ih =>
      obtain ⟨start, run, kept⟩ := mainConf_keeps wellFormed room first
      obtain ⟨after, later, keeps⟩ := ih kept.wellFormed (kept.room room)
      refine ⟨after, ?_, kept.trans keeps⟩
      unfold starts
      rw [run]
      exact later

/-- A file with `BT.BAR` and an empty `BT.DINF`. -/
def emptySysconf : List UInt8 :=
  confFile ([0x53, 0x43, 0x76, 0x30, 0, 2, 0, 10, 0, 18, 0x65] ++ btBar ++ [1, 0x26] ++ btDinf ++
    [0x04, 0x60])

theorem emptySysconf_directory : confCount emptySysconf = 2 ∧ confEntry emptySysconf 0 = 10 ∧
    confEntry emptySysconf 1 = 18 :=
  ⟨confFile_word _ 4, confFile_word _ 6, confFile_word _ 8⟩

theorem emptySysconf_bar : confHeader emptySysconf 0 = 0x65 ∧ confName emptySysconf 0 = btBar ∧
    confHead emptySysconf 0 = 17 ∧ confPayloadSize emptySysconf 0 = 1 := by
  obtain ⟨-, entry, -⟩ := emptySysconf_directory
  have header : confHeader emptySysconf 0 = 0x65 := by
    rw [confHeader, entry]
    exact confFile_byte _ 10
  refine ⟨header, ?_, ?_, ?_⟩
  · rw [confName, header, entry]
    rfl
  · rw [confHead, header, entry]
    rfl
  · rw [confPayloadSize, header]
    rfl

theorem emptySysconf_pads : confHeader emptySysconf 1 = 0x26 ∧ confName emptySysconf 1 = btDinf ∧
    confHead emptySysconf 1 = 28 ∧
    confStored emptySysconf btDinf (confEntry emptySysconf 1) .bigarray = sizeofConfPads := by
  obtain ⟨-, -, entry⟩ := emptySysconf_directory
  have header : confHeader emptySysconf 1 = 0x26 := by
    rw [confHeader, entry]
    exact confFile_byte _ 18
  refine ⟨header, ?_, ?_, ?_⟩
  · rw [confName, header, entry]
    rfl
  · rw [confHead, header, entry]
    rfl
  · rw [entry]
    exact congrArg (· + 1) (confFile_word _ 26)

theorem emptySysconf_wellFormed : WellFormed emptySysconf := by
  obtain ⟨count, entryBar, entryPads⟩ := emptySysconf_directory
  obtain ⟨-, nameBar, headBar, sizeBar⟩ := emptySysconf_bar
  obtain ⟨headerPads, namePads, headPads, stored⟩ := emptySysconf_pads
  have length : emptySysconf.length = 0x4000 := confFile_length (by decide)
  have sizePads : confPayloadSize emptySysconf 1 = 1121 := by
    rw [confPayloadSize_of_type (by rw [headerPads]; rfl), namePads]
    exact stored
  have two {index : Nat} (listed : index < confCount emptySysconf) : index = 0 ∨ index = 1 := by
    omega
  refine ⟨length, by omega, ?_, ?_, ?_, ?_⟩
  · intro index listed
    rcases two listed with rfl | rfl
    · rw [confEnd]
      omega
    · rw [confEnd]
      omega
  · intro one listed other also differ
    rcases two listed with rfl | rfl
    · rcases two also with rfl | rfl
      · exact absurd rfl differ
      · rw [confEnd]
        omega
    · rcases two also with rfl | rfl
      · rw [confEnd, confEnd]
        omega
      · exact absurd rfl differ
  · intro index listed
    rcases two listed with rfl | rfl
    · omega
    · omega
  · intro one listed other also differ
    rcases two listed with rfl | rfl
    · rcases two also with rfl | rfl
      · exact absurd rfl differ
      · rw [nameBar, namePads]
        decide
    · rcases two also with rfl | rfl
      · rw [nameBar, namePads]
        decide
      · exact absurd rfl differ

theorem emptySysconf_table : TableAt emptySysconf 1 .bigarray := by
  obtain ⟨count, -, -⟩ := emptySysconf_directory
  obtain ⟨header, name, -, stored⟩ := emptySysconf_pads
  exact ⟨emptySysconf_wellFormed, by omega, name, by rw [header]; rfl, stored⟩

theorem emptySysconf_registered :
    (ConfPadsSetting.ofBytes (tableBytes emptySysconf 1)).numRegistered = 0 := by
  obtain ⟨-, -, head, -⟩ := emptySysconf_pads
  change confByte (tableBytes emptySysconf 1) 0 = 0
  have byte := confFile_byte ([0x53, 0x43, 0x76, 0x30, 0, 2, 0, 10, 0, 18, 0x65] ++ btBar ++
    [1, 0x26] ++ btDinf ++ [0x04, 0x60]) 28
  rw [confByte, tableBytes, head, List.getD_eq_getElem?_getD, List.getElem?_take_of_lt (by decide),
    List.getElem?_drop, ← List.getD_eq_getElem?_getD]
  exact byte

theorem emptySysconf_room : PadsRoom emptySysconf := by
  rintro pads ⟨bytes, read, rfl⟩
  rw [emptySysconf_table.get] at read
  cases read
  rw [emptySysconf_registered]
  decide

/-- Two starts, the first of which writes only a part of the file. -/
theorem starts_keep_sysconf_torn :
    ∃ after, starts [⟨3, ⟨0x4000, none⟩, 4, ⟨50, none⟩⟩, ⟨3, ⟨0x4000, none⟩, 4, ⟨0x4000, none⟩⟩]
      emptySysconf = .ok after ∧ KeepsSysconf emptySysconf after :=
  starts_keep_sysconf _ emptySysconf_wellFormed emptySysconf_room

theorem storeBytes_same {file after : List UInt8} {start count : Nat}
    (inside : start + count ≤ file.length)
    (copied : storeBytes file start ((file.drop start).take count) = .ok after) : after = file := by
  have length : ((file.drop start).take count).length = count := by
    rw [List.length_take, List.length_drop]
    omega
  unfold storeBytes Bytes.storeBytes at copied
  rw [length, if_pos inside] at copied
  cases copied
  rw [List.append_assoc, ← List.drop_drop, List.take_append_drop, List.take_append_drop]

/-- A table that a patch leaves as it is stays in the file as it is, however far a write comes. -/
theorem TableAt.settled {file : List UInt8} {index : Nat} {type : ConfType}
    (table : TableAt file index type) {written : Bool} {result : PatchResult}
    (fixed : patchConfBtDinf (some (ConfPadsSetting.ofBytes (tableBytes file index))) written =
      .ok (result, some (ConfPadsSetting.ofBytes (tableBytes file index)))) (answers : FileAnswers) :
    ∃ result, patchConfFile answers file file = .ok (result, file) := by
  unfold patchConfBtDinf at fixed
  dsimp only at fixed
  split at fixed
  case isTrue => cases fixed
  case isFalse room =>
      have patch := table.patch (Nat.not_lt.mp room) answers
      dsimp only at patch
      split at patch
      case isTrue two => exact ⟨_, patch⟩
      case isFalse few =>
          obtain ⟨new, copied, run⟩ := patch
          rw [if_neg few] at fixed
          have same := Option.some.inj (Prod.mk.inj (Except.ok.inj fixed)).2
          rw [same, ConfPadsSetting.bytes_ofBytes table.bytes_length] at copied
          have unchanged := storeBytes_same table.inside copied
          subst unchanged
          obtain ⟨part, stays⟩ := writeConf_torn answers new new
          rw [torn_self] at stays
          rw [stays] at run
          exact ⟨_, run⟩

def Settled (file : List UInt8) : Prop :=
  ∃ pads, HoldsPads file pads ∧ ∃ written result,
    patchConfBtDinf (some pads) written = .ok (result, some pads)

theorem Settled.starts {file : List UInt8} (settled : Settled file) (wellFormed : WellFormed file)
    (room : PadsRoom file) (answers : List FileAnswers) : starts answers file = .ok file := by
  obtain ⟨pads, holds, written, result, fixed⟩ := settled
  obtain ⟨index, type, table, rfl⟩ := holds.table wellFormed
  have still (first : FileAnswers) :
      ∃ start, mainConf first file = .ok start ∧ start.file = file := by
    obtain ⟨start, run, -⟩ := mainConf_keeps wellFormed room first
    refine ⟨start, run, ?_⟩
    obtain ⟨result, patch⟩ := table.settled fixed first
    unfold mainConf at run
    dsimp only [bind, Except.bind] at run
    split at run
    case isTrue => cases run; rfl
    case isFalse whole =>
        rw [readConf_whole wellFormed.size (not_not.mp whole)] at run
        split at run
        case h_1 => cases run
        case h_2 bar _ =>
            split at run
            case isTrue => cases run; rfl
            case isFalse =>
                rw [patch] at run
                cases run
                rfl
  induction answers with
  | nil => rfl
  | cons first rest ih =>
      obtain ⟨start, run, same⟩ := still first
      unfold Fakemote.starts
      rw [run]
      dsimp only [bind, Except.bind]
      rw [same]
      exact ih

structure FileAnswers.Through (answers : FileAnswers) : Prop where
  openRead : 0 ≤ answers.openRead
  read : confSize ≤ answers.read.bytes ∧ answers.read.error = none
  openWrite : 0 ≤ answers.openWrite
  write : confSize ≤ answers.write.bytes ∧ answers.write.error = none

namespace FileAnswers.Through

variable {answers : FileAnswers} {file : List UInt8}

theorem readConf (through : answers.Through) (size : file.length = confSize) :
    Fakemote.readConf answers file = ((confSize : Int), file) := by
  have opened := through.openRead
  obtain ⟨enough, fine⟩ := through.read
  have data : file.take (min answers.read.bytes confSize) = file :=
    List.take_of_length_le (by omega)
  unfold Fakemote.readConf FileAnswer.result
  rw [if_neg (by omega), data, fine]
  dsimp only
  rw [size, Nat.sub_self, List.replicate_zero, List.append_nil]

theorem writeConf (through : answers.Through) {buffer : List UInt8}
    (size : buffer.length = confSize) (same : file.length = confSize) :
    Fakemote.writeConf answers buffer file = ((confSize : Int), buffer) := by
  have opened := through.openWrite
  obtain ⟨enough, fine⟩ := through.write
  unfold Fakemote.writeConf FileAnswer.result
  rw [if_neg (by omega), Nat.min_eq_right enough, fine]
  dsimp only
  rw [torn_whole (size.trans same.symm) (by omega)]

end FileAnswers.Through

/-- What a start leaves when nothing fails: the places of the fake Wiimotes, for good. -/
structure PlacesFakes (before after : List UInt8) : Prop where
  keeps : KeepsSysconf before after
  fakes : ∃ pads, HoldsPads after pads ∧
    ∀ w : WiimoteId, pads.addresses.count (fakeWiimoteBdaddr w) = 1
  settled : ∀ answers, starts answers after = .ok after

theorem patch_settles {pads : ConfPadsSetting}
    (room : pads.numRegistered.toNat ≤ confPadMaxRegistered) (places : FakesInPlace pads) :
    let pairedCount := countFrom fakeBdaddr 0 pads.addresses
    let after := if 2 ≤ pairedCount then pads else pads.addFakes (2 - pairedCount)
    (∀ w : WiimoteId, after.addresses.count (fakeWiimoteBdaddr w) = 1) ∧
      ∃ result, patchConfBtDinf (some after) true = .ok (result, some after) := by
  intro pairedCount after
  unfold FakesInPlace at places
  dsimp only at places
  by_cases two : 2 ≤ pairedCount
  · have order := (pairedCount_two_iff _).mp two
    have same : after = pads := if_pos two
    rw [if_pos order] at places
    rw [same]
    refine ⟨?_, .ok, ?_⟩
    · intro w
      rcases zero_or_one w with rfl | rfl
      · exact places.1
      · exact places.2
    · rw [patch_run room, if_pos order]
  · have apart := mt (pairedCount_two_iff _).mpr two
    have same : after = pads.addFakes (2 - pairedCount) := if_neg two
    rw [if_neg apart] at places
    have drawn : 2 - pairedCount = if fakeWiimoteBdaddr 0 ∈ pads.addresses then 1 else 2 := by
      split
      case isTrue first =>
          have found := (pairedCount_pos_iff _).mpr first
          omega
      case isFalse none =>
          have found := mt (pairedCount_pos_iff _).mp none
          omega
    rw [same]
    exact ⟨(fakes_once_iff drawn).mpr places, patch_again drawn places.1 true⟩

theorem patchConfFile_through {file : List UInt8} {pads : ConfPadsSetting} {answers : FileAnswers}
    (wellFormed : WellFormed file) (room : PadsRoom file) (holds : HoldsPads file pads)
    (through : answers.Through) :
    let pairedCount := countFrom fakeBdaddr 0 pads.addresses
    ∃ after, patchConfFile answers file file = .ok (.ok, after) ∧
      HoldsPads after (if 2 ≤ pairedCount then pads else pads.addFakes (2 - pairedCount)) := by
  intro pairedCount
  have fits := room pads holds
  obtain ⟨index, type, table, rfl⟩ := holds.table wellFormed
  have patch := table.patch fits answers
  dsimp only at patch
  by_cases two : 2 ≤ pairedCount
  · rw [if_pos two] at patch
    rw [if_pos two]
    exact ⟨file, patch, holds⟩
  · rw [if_neg two] at patch
    obtain ⟨new, copied, run⟩ := patch
    have active : ((ConfPadsSetting.ofBytes (tableBytes file index)).addFakes
        (2 - pairedCount)).active.length = 4 := padFormat.read_length _ _ _
    have size := ConfPadsSetting.bytes_length active
    have whole := (sameOutside_store copied).length
    rw [through.writeConf (whole.trans wellFormed.size) wellFormed.size] at run
    have held := (table.stays size copied).holds
    rw [table.bytes_written size copied, ConfPadsSetting.ofBytes_bytes active] at held
    rw [if_neg two]
    exact ⟨new, run, held⟩

/-- A start with the addresses in place and the calls succeeding goes on to the patchers, with the
position that `BT.BAR` has, and leaves both addresses in the file once; no later start changes a
byte of it. -/
theorem start_places_fakes {file : List UInt8} {pads : ConfPadsSetting} {answers : FileAnswers}
    {top : UInt8} (wellFormed : WellFormed file) (holds : HoldsPads file pads)
    (room : pads.numRegistered.toNat ≤ confPadMaxRegistered) (places : FakesInPlace pads)
    (bar : confGet file btBar [0] 1 = .ok (1, [top])) (through : answers.Through) :
    ∃ after, mainConf answers file = .ok ⟨.ok, some (top ≠ 0), after⟩ ∧ PlacesFakes file after := by
  have room : PadsRoom file := by
    rintro other ⟨bytes, read, rfl⟩
    obtain ⟨same, again, rfl⟩ := holds
    rw [read] at again
    cases again
    exact room
  obtain ⟨once, result, fixed⟩ := patch_settles (room pads holds) places
  obtain ⟨after, patched, held⟩ := patchConfFile_through wellFormed room holds through
  obtain ⟨start, run, keeps⟩ := mainConf_keeps wellFormed room answers
  have computed : mainConf answers file = .ok ⟨.ok, some (top ≠ 0), after⟩ := by
    unfold mainConf
    rw [through.readConf wellFormed.size]
    dsimp only [bind, Except.bind]
    rw [if_neg (not_not_intro rfl), bar]
    dsimp only
    rw [if_neg (not_not_intro rfl), patched]
    rfl
  rw [computed] at run
  cases run
  refine ⟨after, computed, keeps, ⟨_, held, once⟩, ?_⟩
  have settled : Settled after := ⟨_, held, true, result, fixed⟩
  exact settled.starts keeps.wellFormed (keeps.room room)

/-- The empty table gets both. -/
theorem start_places_fakes_empty :
    ∃ after, mainConf ⟨3, ⟨0x4000, none⟩, 4, ⟨0x4000, none⟩⟩ emptySysconf =
        .ok ⟨.ok, some true, after⟩ ∧ PlacesFakes emptySysconf after := by
  obtain ⟨count, -, -⟩ := emptySysconf_directory
  obtain ⟨header, name, head, -⟩ := emptySysconf_bar
  have none : (ConfPadsSetting.ofBytes (tableBytes emptySysconf 1)).addresses = [] := by
    rw [ConfPadsSetting.addresses, ConfPadsSetting.entries, emptySysconf_registered]
    rfl
  have bar : confGet emptySysconf btBar [0] 1 = .ok (1, [1]) := by
    have known : confType (confHeader emptySysconf 0) = some .byte := by
      rw [header]
      rfl
    have found := emptySysconf_wellFormed.found (by omega) known
    have payload := confPayload_of_type (emptySysconf_wellFormed.nameLength (by omega)) known
    have length : emptySysconf.length = 0x4000 := confFile_length (by decide)
    rw [← name, found.get rfl, payload, head, if_pos (by omega), if_pos (by decide),
      loadBytes_slice (by rw [length]; decide)]
    rfl
  refine start_places_fakes emptySysconf_wellFormed emptySysconf_table.holds
    (by rw [emptySysconf_registered]; decide) ?_ bar ⟨by decide, ⟨by decide, rfl⟩, by decide,
      ⟨by decide, rfl⟩⟩
  unfold FakesInPlace
  dsimp only
  rw [none]
  decide

end Fakemote
