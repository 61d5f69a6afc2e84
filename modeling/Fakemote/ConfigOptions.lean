import Fakemote.InBounds

/-! The option list of a Config Request as a sequence of type, length and value, and the loop that
reads it. -/

namespace Fakemote

open Bytes Program

inductive OptionOffset (options : List UInt8) (size : Nat) : Nat → Prop
  | first : OptionOffset options size 0
  | next {offset : Nat} {type length : UInt8} (here : OptionOffset options size offset)
      (inside : offset < size) (typeAt : load8 options offset = .ok type)
      (lengthAt : load8 options (offset + 1) = .ok length)
      (sized : type = l2capOptMtu ∨ type = l2capOptFlushTimo → length = 2) :
      OptionOffset options size (offset + l2capCfgOptSize + length.toNat)

/-- Everything that the loop reads is there: the header of each option it comes to, and the value
of an MTU option. -/
def OptionsReadable (options : List UInt8) (size : Nat) : Prop :=
  ∀ offset, OptionOffset options size offset → offset < size →
    offset + l2capCfgOptSize ≤ options.length ∧
    (load8 options offset = .ok l2capOptMtu → load8 options (offset + 1) = .ok l2capOptMtuSize →
      offset + l2capCfgOptSize + 2 ≤ options.length)

theorem configOptions_next {options : List UInt8} {offset size : Nat} {type length : UInt8}
    (fuel : Nat) (remoteMtu : UInt16) (inside : offset < size)
    (typeAt : load8 options offset = .ok type) (lengthAt : load8 options (offset + 1) = .ok length)
    (sized : type = l2capOptMtu ∨ type = l2capOptFlushTimo → length = 2)
    (value : type = l2capOptMtu → offset + l2capCfgOptSize + 2 ≤ options.length) :
    ∃ mtu, Device.configOptions (fuel + 1) options offset size remoteMtu =
        Device.configOptions fuel options (offset + l2capCfgOptSize + length.toNat) size mtu ∧
      (type ≠ l2capOptMtu → mtu = remoteMtu) ∧
      ∀ word, type = l2capOptMtu → load16 options (offset + l2capCfgOptSize) = .ok word →
        mtu = le16toh word := by
  rw [Device.configOptions, if_pos inside, typeAt, except_ok_bind, lengthAt, except_ok_bind]
  dsimp only
  by_cases mtuOption : type = l2capOptMtu
  · have two : length = l2capOptMtuSize := sized (Or.inl mtuOption)
    obtain ⟨word, wordAt⟩ := load16_readable.mpr (value mtuOption)
    rw [if_pos mtuOption, if_pos two, wordAt, except_ok_bind]
    refine ⟨le16toh word, rfl, fun other => absurd mtuOption other, ?_⟩
    intro other _ same
    rw [Except.ok.inj same]
  · rw [if_neg mtuOption]
    have kept : type ≠ l2capOptMtu → remoteMtu = remoteMtu := fun _ => rfl
    by_cases flush : type = l2capOptFlushTimo
    · have two : length = l2capOptFlushTimoSize := sized (Or.inr flush)
      rw [if_pos flush, if_pos two]
      exact ⟨remoteMtu, rfl, kept, fun _ same => absurd same mtuOption⟩
    · rw [if_neg flush]
      exact ⟨remoteMtu, rfl, kept, fun _ same => absurd same mtuOption⟩

theorem OptionsReadable.configOptions {options : List UInt8} {size : Nat}
    (readable : OptionsReadable options size) (fuel : Nat) :
    ∀ {offset : Nat} (remoteMtu : UInt16), OptionOffset options size offset →
      Device.configOptions fuel options offset size remoteMtu ≠ .error .outOfBounds := by
  induction fuel with
  | zero =>
      intro offset remoteMtu _ left
      cases left
  | succ fuel ih =>
      intro offset remoteMtu here left
      by_cases inside : offset < size
      · obtain ⟨header, value⟩ := readable offset here inside
        rw [l2capCfgOptSize] at header
        obtain ⟨type, typeAt⟩ := load8_readable.mpr (show offset < options.length by omega)
        obtain ⟨length, lengthAt⟩ := load8_readable.mpr (show offset + 1 < options.length by omega)
        by_cases sized : type = l2capOptMtu ∨ type = l2capOptFlushTimo → length = 2
        · have whole (same : type = l2capOptMtu) :
              offset + l2capCfgOptSize + 2 ≤ options.length := by
            apply value
            · rw [typeAt, same]
            · rw [lengthAt, sized (Or.inl same), l2capOptMtuSize]
          obtain ⟨mtu, turn, -⟩ := configOptions_next fuel remoteMtu inside typeAt lengthAt sized
            whole
          rw [turn] at left
          exact ih mtu (here.next inside typeAt lengthAt sized) left
        · -- a length that is not 2 stops the loop before it reads the value
          rw [Classical.not_imp] at sized
          have two : length ≠ l2capOptMtuSize := sized.2
          have two' : length ≠ l2capOptFlushTimoSize := sized.2
          rw [Device.configOptions, if_pos inside, typeAt, except_ok_bind, lengthAt,
            except_ok_bind] at left
          dsimp only at left
          rcases sized.1 with same | same
          · rw [if_pos same, if_neg two] at left
            cases left
          · have other : type ≠ l2capOptMtu := by
              rw [same]
              decide
            rw [if_neg other, if_pos same, if_neg two'] at left
            cases left
      · rw [Device.configOptions, if_neg inside] at left
        cases left

theorem configOptions_value {options : List UInt8} {offset size : Nat} (fuel : Nat)
    (remoteMtu : UInt16) (inside : offset < size)
    (typeAt : load8 options offset = .ok l2capOptMtu)
    (lengthAt : load8 options (offset + 1) = .ok l2capOptMtuSize)
    (short : options.length < offset + l2capCfgOptSize + 2) :
    Device.configOptions (fuel + 1) options offset size remoteMtu = .error .outOfBounds := by
  rw [Device.configOptions, if_pos inside, typeAt, except_ok_bind, lengthAt, except_ok_bind]
  dsimp only
  rw [if_pos rfl, if_pos rfl, load16_beyond short]
  rfl

theorem OptionOffset.stays {options : List UInt8} {size offset : Nat} {remoteMtu : UInt16}
    (here : OptionOffset options size offset)
    (stays : Device.configOptions size options 0 size remoteMtu ≠ .error .outOfBounds) :
    ∃ fuel mtu, size ≤ fuel + offset ∧
      Device.configOptions fuel options offset size mtu ≠ .error .outOfBounds := by
  induction here with
  | first => exact ⟨size, remoteMtu, Nat.le_refl size, stays⟩
  | @next offset type length here inside typeAt lengthAt sized ih =>
      obtain ⟨fuel, mtu, enough, inBounds⟩ := ih
      obtain ⟨fuel, rfl⟩ : ∃ less, fuel = less + 1 := ⟨fuel - 1, by omega⟩
      have value (same : type = l2capOptMtu) : offset + l2capCfgOptSize + 2 ≤ options.length := by
        by_contra short
        have two : length = l2capOptMtuSize := sized (Or.inl same)
        rw [same] at typeAt
        rw [two] at lengthAt
        exact inBounds (configOptions_value fuel mtu inside typeAt lengthAt (by omega))
      obtain ⟨next, turn, -⟩ := configOptions_next fuel mtu inside typeAt lengthAt sized value
      rw [turn] at inBounds
      exact ⟨fuel, next, by rw [l2capCfgOptSize]; omega, inBounds⟩

/-- The loop reads nothing beyond the packet exactly when all it comes to is there. -/
theorem configOptions_readable (options : List UInt8) (size : Nat) (remoteMtu : UInt16) :
    Device.configOptions size options 0 size remoteMtu ≠ .error .outOfBounds ↔
      OptionsReadable options size := by
  constructor
  · intro stays offset here inside
    obtain ⟨fuel, mtu, enough, inBounds⟩ := here.stays stays
    obtain ⟨fuel, rfl⟩ : ∃ less, fuel = less + 1 := ⟨fuel - 1, by omega⟩
    have header : offset + 1 < options.length := by
      by_contra short
      apply inBounds
      rw [Device.configOptions, if_pos inside]
      cases typeAt : load8 options offset with
      | error fault =>
          have only : fault = .outOfBounds := orFault_error typeAt
          rw [only]
          rfl
      | ok type =>
          rw [except_ok_bind, load8_beyond (by omega)]
          rfl
    constructor
    · rw [l2capCfgOptSize]
      omega
    · intro typeAt lengthAt
      by_contra short
      exact inBounds (configOptions_value fuel mtu inside typeAt lengthAt (by omega))
  · intro readable
    exact readable.configOptions size remoteMtu .first

/-- A well-formed option: its value has the length that its type asks for, or any that the length
byte can tell. -/
structure ConfigOption where
  type : UInt8
  value : List UInt8
  short : value.length < 256
  sized : type = l2capOptMtu ∨ type = l2capOptFlushTimo → value.length = 2

namespace ConfigOption

def bytes (option : ConfigOption) : List UInt8 :=
  [option.type, UInt8.ofNat option.value.length] ++ option.value

def mtu (option : ConfigOption) : Option UInt16 :=
  if option.type = l2capOptMtu then (Bytes.load16 option.value 0).map le16toh else none

@[simp] theorem bytes_length (option : ConfigOption) :
    option.bytes.length = option.value.length + 2 := by
  simp [bytes]

theorem length_byte (option : ConfigOption) :
    (UInt8.ofNat option.value.length).toNat = option.value.length :=
  UInt8.toNat_ofNat_of_lt' option.short

end ConfigOption

def optionBytes (options : List ConfigOption) : List UInt8 := options.flatMap ConfigOption.bytes

@[simp] theorem optionBytes_cons (option : ConfigOption) (rest : List ConfigOption) :
    optionBytes (option :: rest) = option.bytes ++ optionBytes rest := rfl

@[simp] theorem optionBytes_append (first second : List ConfigOption) :
    optionBytes (first ++ second) = optionBytes first ++ optionBytes second :=
  List.flatMap_append

/-- The last MTU option sets the MTU; without one it is `remoteMtu`. -/
def lastMtu (options : List ConfigOption) (remoteMtu : UInt16) : UInt16 :=
  (options.filterMap ConfigOption.mtu).getLast?.getD remoteMtu

theorem lastMtu_cons (option : ConfigOption) (rest : List ConfigOption) (remoteMtu : UInt16) :
    lastMtu (option :: rest) remoteMtu = lastMtu rest (option.mtu.getD remoteMtu) := by
  unfold lastMtu
  cases sets : option.mtu with
  | none => simp [sets]
  | some mtu => simp [sets, List.getLast?_cons]

section Placed

variable (before rest : List UInt8) (option : ConfigOption)

theorem placed_type : load8 (before ++ (option.bytes ++ rest)) before.length = .ok option.type := by
  simp [load8, Bytes.load8, ConfigOption.bytes, orFault]

theorem placed_length : load8 (before ++ (option.bytes ++ rest)) (before.length + 1) =
    .ok (UInt8.ofNat option.value.length) := by
  simp [load8, Bytes.load8, ConfigOption.bytes, orFault]

theorem placed_value (index : Nat) (inside : index < option.value.length) :
    (before ++ (option.bytes ++ rest))[before.length + 2 + index]? = option.value[index]? := by
  rw [Nat.add_assoc, List.getElem?_append_right (Nat.le_add_right _ _), Nat.add_sub_cancel_left,
    ConfigOption.bytes, List.append_assoc, List.getElem?_append_right (by simp)]
  simp only [List.length_cons, List.length_nil, Nat.zero_add, Nat.add_sub_cancel_left]
  exact List.getElem?_append_left inside

theorem placed_mtu (two : option.value.length = 2) :
    load16 (before ++ (option.bytes ++ rest)) (before.length + l2capCfgOptSize) =
      load16 option.value 0 := by
  have high := placed_value before rest option 0 (by omega)
  have low := placed_value before rest option 1 (by omega)
  unfold load16 Bytes.load16
  rw [l2capCfgOptSize, high.symm, low.symm]

theorem placed_sized (isSized : option.type = l2capOptMtu ∨ option.type = l2capOptFlushTimo) :
    UInt8.ofNat option.value.length = 2 := by
  rw [option.sized isSized]
  rfl

end Placed

theorem configOptions_option (before rest : List UInt8) (option : ConfigOption) {size : Nat}
    (fuel : Nat) (remoteMtu : UInt16) (inside : before.length < size) :
    Device.configOptions (fuel + 1) (before ++ (option.bytes ++ rest)) before.length size remoteMtu =
      Device.configOptions fuel (before ++ (option.bytes ++ rest))
        (before ++ option.bytes).length size (option.mtu.getD remoteMtu) := by
  have value (same : option.type = l2capOptMtu) : before.length + l2capCfgOptSize + 2 ≤
      (before ++ (option.bytes ++ rest)).length := by
    have two := option.sized (Or.inl same)
    simp only [List.length_append, ConfigOption.bytes_length, l2capCfgOptSize]
    omega
  obtain ⟨mtu, turn, other, word⟩ := configOptions_next fuel remoteMtu inside
    (placed_type before rest option) (placed_length before rest option)
    (placed_sized option) value
  have position : before.length + l2capCfgOptSize + (UInt8.ofNat option.value.length).toNat =
      (before ++ option.bytes).length := by
    rw [option.length_byte, List.length_append, ConfigOption.bytes_length, l2capCfgOptSize]
    omega
  rw [turn, position]
  congr 1
  unfold ConfigOption.mtu
  by_cases mtuOption : option.type = l2capOptMtu
  · have two := option.sized (Or.inl mtuOption)
    obtain ⟨raw, rawAt⟩ := load16_some (show 0 + 2 ≤ option.value.length by omega)
    have loaded : load16 option.value 0 = .ok raw := orFault_ok.mpr rawAt
    rw [if_pos mtuOption, rawAt]
    exact word raw mtuOption ((placed_mtu before rest option two).trans loaded)
  · rw [if_neg mtuOption]
    exact other mtuOption

/-- The loop over a well-formed list ends at its last MTU, whatever follows the list. -/
theorem configOptions_list (after : List UInt8) (options : List ConfigOption) :
    ∀ (before : List UInt8) (fuel : Nat) (remoteMtu : UInt16), (optionBytes options).length ≤ fuel →
      Device.configOptions fuel (before ++ (optionBytes options ++ after)) before.length
        (before ++ optionBytes options).length remoteMtu = .ok (lastMtu options remoteMtu) := by
  induction options with
  | nil =>
      intro before fuel remoteMtu _
      simp only [optionBytes, List.flatMap_nil, List.append_nil]
      cases fuel with
      | zero => rfl
      | succ fuel => exact configOptions_end fuel _ _ _
  | cons option rest ih =>
      intro before fuel remoteMtu enough
      simp only [optionBytes_cons, List.length_append, ConfigOption.bytes_length] at enough
      obtain ⟨fuel, rfl⟩ : ∃ less, fuel = less + 1 := ⟨fuel - 1, by omega⟩
      have inside : before.length < (before ++ optionBytes (option :: rest)).length := by
        simp only [optionBytes_cons, List.length_append, ConfigOption.bytes_length]
        omega
      have turn := configOptions_option before (optionBytes rest ++ after) option fuel remoteMtu
        inside
      have others := ih (before ++ option.bytes) fuel (option.mtu.getD remoteMtu) (by omega)
      rw [lastMtu_cons, ← others]
      simpa only [optionBytes_cons, List.append_assoc] using turn

theorem optionOffset_list (options : List ConfigOption) (after : List UInt8) {offset : Nat}
    (here : OptionOffset (optionBytes options ++ after) (optionBytes options).length offset) :
    ∃ done rest, options = done ++ rest ∧ offset = (optionBytes done).length := by
  induction here with
  | first => exact ⟨[], options, rfl, rfl⟩
  | @next offset type length here inside typeAt lengthAt sized ih =>
      obtain ⟨done, rest, rfl, rfl⟩ := ih
      cases rest with
      | nil =>
          rw [List.append_nil] at inside
          exact absurd inside (Nat.lt_irrefl _)
      | cons option rest =>
          have size := placed_length (optionBytes done) (optionBytes rest ++ after) option
          simp only [optionBytes_append, optionBytes_cons, List.append_assoc] at lengthAt
          rw [lengthAt, Except.ok.injEq] at size
          refine ⟨done ++ [option], rest, by rw [List.append_assoc]; rfl, ?_⟩
          rw [size, option.length_byte, optionBytes_append, List.length_append, l2capCfgOptSize]
          simp only [optionBytes, List.flatMap_cons, List.flatMap_nil, List.append_nil,
            ConfigOption.bytes_length]
          omega

theorem optionOffset_end (options : List ConfigOption) (after : List UInt8) {last : Nat}
    (here : OptionOffset (optionBytes options ++ after) (optionBytes options).length last)
    (left : (optionBytes options).length ≤ last) : last = (optionBytes options).length := by
  obtain ⟨done, rest, rfl, rfl⟩ := optionOffset_list options after here
  rw [optionBytes_append, List.length_append] at left ⊢
  omega

theorem loadBytes_prefix (options after : List UInt8) :
    loadBytes (options ++ after) 0 options.length = .ok options := by
  simp [loadBytes, Bytes.loadBytes, orFault]

def Periphery.withMtu (p : Periphery) (w : WiimoteId) (chn : Channel) (mtu : UInt16) : Periphery :=
  let wiimote := p.sessions w
  { p with
    sessions := Function.update p.sessions w
      (wiimote.setChannel chn { wiimote.channel chn with remoteMtu := mtu }) }

/-- The loop ends with the last option, the MTU of this channel is recorded, and one response with
the same options is all that is sent. The options are followed in memory by what is left of the
packet. -/
def ConfigRequestServed (dev : Device) (ident : UInt8) (dcid size : UInt16) (chn : Channel)
    (options : List ConfigOption) (after : List UInt8) (p : Periphery) : Prop :=
  (∀ last, OptionOffset (optionBytes options ++ after) size.toNat last → size.toNat ≤ last →
    last = size.toNat) ∧
  dev.handleL2capConfigReq ident dcid 0 (optionBytes options ++ after) size p =
    .ok ((), ((p.withMtu dev.self chn (lastMtu options l2capMtuDefault)).deliver
      (signalPacket dev.conHandle l2capConfigRsp ident
        (configRspPayload ((p.sessions dev.self).channel chn).remoteCid (optionBytes options)))).2)

theorem Device.channelOrFault_run (dev : Device) {dcid : UInt16} {chn : Channel} {p : Periphery}
    (valid : (p.sessions dev.self).getChannelInfo dcid = some chn) :
    dev.channelOrFault dcid p = .ok (chn, p) := by
  unfold Device.channelOrFault
  rw [bind_run (show getSession dev.self p = .ok (p.sessions dev.self, p) from rfl), valid]
  rfl

section Handler

variable {dev : Device} {dcid size : UInt16} {chn : Channel} {options : List ConfigOption}
  {after : List UInt8} {p : Periphery}

theorem handleL2capConfigReq_fault {memory : List UInt8} {fault : Fault} (ident : UInt8)
    (valid : (p.sessions dev.self).getChannelInfo dcid = some chn)
    (loop : Device.configOptions size.toNat memory 0 size.toNat l2capMtuDefault = .error fault) :
    dev.handleL2capConfigReq ident dcid 0 memory size p = .error fault := by
  have noFlags : assertThat ((0 : UInt16) = 0) .configReqFlags p = .ok ((), p) := rfl
  unfold Device.handleL2capConfigReq
  rw [bind_run noFlags, bind_run (dev.channelOrFault_run valid), loop]
  rfl

theorem handleL2capConfigReq_run (ident : UInt8)
    (filled : (optionBytes options).length = size.toNat)
    (valid : (p.sessions dev.self).getChannelInfo dcid = some chn) :
    dev.handleL2capConfigReq ident dcid 0 (optionBytes options ++ after) size p =
      (injectL2capConfigRsp dev.conHandle ((p.sessions dev.self).channel chn).remoteCid ident
        (optionBytes options ++ after) size >>= fun _ => pure ())
        (p.withMtu dev.self chn (lastMtu options l2capMtuDefault)) := by
  have loop := configOptions_list after options [] size.toNat l2capMtuDefault (by omega)
  simp only [List.nil_append, List.length_nil, filled] at loop
  have noFlags : assertThat ((0 : UInt16) = 0) .configReqFlags p = .ok ((), p) := rfl
  unfold Device.handleL2capConfigReq
  rw [bind_run noFlags, bind_run (dev.channelOrFault_run valid), loop, bind_run (lift_run_ok _ p)]
  rfl

/-- The response reads the options and nothing that follows them. -/
theorem injectL2capConfigRsp_echo (handle remoteCid : UInt16) (ident : UInt8)
    (filled : (optionBytes options).length = size.toNat) :
    injectL2capConfigRsp handle remoteCid ident (optionBytes options ++ after) size =
      injectL2capConfigRsp handle remoteCid ident (optionBytes options)
        (UInt16.ofNat (optionBytes options).length) := by
  have whole := loadBytes_prefix (optionBytes options) after
  have alone := loadBytes_prefix (optionBytes options) []
  rw [filled] at whole alone
  rw [List.append_nil] at alone
  unfold injectL2capConfigRsp
  rw [filled, UInt16.ofNat_toNat, whole, alone]

/-- A response whose size does not fit the sixteen bits of an allocation is written past its
block. -/
theorem injectL2capConfigRsp_overflow {ident : UInt8} {handle remoteCid : UInt16}
    {junk : Nat → UInt8} {q : Periphery} {ret : IosResult}
    (filled : (optionBytes options).length = size.toNat)
    (allocates : p.heap.outcome p.heap.calls = some junk) (large : 65536 ≤ size.toNat + 18) :
    injectL2capConfigRsp handle remoteCid ident (optionBytes options ++ after) size p ≠
      .ok (ret, q) := by
  intro run
  obtain ⟨_, _, got, run⟩ := bind_ok.mp run
  cases got
  obtain ⟨done, _, first, run⟩ := bind_ok.mp run
  obtain ⟨injected, rfl⟩ := lift_ok.mp first
  obtain ⟨bytes, source, room, -⟩ := (inject_allocates allocates).mp injected
  have copied := loadBytes_prefix (optionBytes options) after
  rw [filled] at copied
  simp only [l2capCmdMsg, l2capMsg, hciAclMsg, copied, except_ok_bind] at source room
  have length : bytes.length = size.toNat + 18 := by
    rw [← Except.ok.inj source]
    simp only [List.length_append, bytes16_length, filled, List.length_cons, List.length_nil]
    omega
  have small := size.toNat_lt
  simp only [length, UInt16.toNat_add, hciAclDataHdrSize, l2capHdrSize, l2capCmdHdrSize,
    l2capCfgRspCpSize, UInt16.toNat_ofNat'] at room
  omega

theorem configRequestServed_iff {junk : Nat → UInt8} (ident : UInt8)
    (filled : (optionBytes options).length = size.toNat)
    (valid : (p.sessions dev.self).getChannelInfo dcid = some chn)
    (allocates : p.heap.outcome p.heap.calls = some junk) :
    ConfigRequestServed dev ident dcid size chn options after p ↔ size.toNat + 18 < 65536 := by
  have run := @handleL2capConfigReq_run dev dcid size chn options after p ident filled valid
  have memory : (p.withMtu dev.self chn (lastMtu options l2capMtuDefault)).heap.outcome
      (p.withMtu dev.self chn (lastMtu options l2capMtuDefault)).heap.calls = some junk := allocates
  constructor
  · intro served
    by_contra large
    have answered := run.symm.trans served.2
    obtain ⟨ret, q, response, -⟩ := bind_ok.mp answered
    exact injectL2capConfigRsp_overflow filled memory (Nat.not_lt.mp large) response
  · intro fits
    refine ⟨?_, run.trans ?_⟩
    · intro last here left
      rw [← filled] at here left ⊢
      exact optionOffset_end options after here left
    · have builds := @builds_configRsp dev.conHandle ((p.sessions dev.self).channel chn).remoteCid
        ident (optionBytes options) (by omega)
      rw [injectL2capConfigRsp_echo _ _ _ filled, bind_run (builds _ junk memory)]
      rfl

end Handler

def mtuOption (value : UInt16) : ConfigOption :=
  ⟨l2capOptMtu, bytes16 (htole16 value), show 2 < 256 by decide, fun _ => rfl⟩

def flushOption (value : UInt16) : ConfigOption :=
  ⟨l2capOptFlushTimo, bytes16 (htole16 value), show 2 < 256 by decide, fun _ => rfl⟩

def requestOptions (mtu flushTimeOut : UInt16) : List ConfigOption :=
  (if mtu ≠ l2capMtuDefault then [mtuOption mtu] else []) ++
    (if flushTimeOut ≠ l2capFlushTimoDefault then [flushOption flushTimeOut] else [])

theorem optionBytes_requestOptions (mtu flushTimeOut : UInt16) :
    optionBytes (requestOptions mtu flushTimeOut) = configReqOptions mtu flushTimeOut := by
  unfold requestOptions configReqOptions
  rw [optionBytes_append]
  split <;> split <;> rfl

theorem mtu_mtuOption (value : UInt16) : (mtuOption value).mtu = some value := by
  unfold ConfigOption.mtu mtuOption
  have word : Bytes.load16 (bytes16 (htole16 value)) 0 = some (htole16 value) := by
    simp [Bytes.load16, bytes16]
  rw [if_pos rfl, word, Option.map_some, le16toh_htole16]

theorem mtu_flushOption (value : UInt16) : (flushOption value).mtu = none := rfl

theorem lastMtu_requestOptions (mtu flushTimeOut : UInt16) :
    lastMtu (requestOptions mtu flushTimeOut) l2capMtuDefault = mtu := by
  have flush : (if flushTimeOut ≠ l2capFlushTimoDefault then [flushOption flushTimeOut]
      else []).filterMap ConfigOption.mtu = [] := by
    split
    · simp [mtu_flushOption]
    · rfl
  unfold lastMtu requestOptions
  rw [List.filterMap_append, flush, List.append_nil]
  by_cases same : mtu = l2capMtuDefault
  · simp [same]
  · simp [same, mtu_mtuOption]

/-- A Config Request with well-formed options for a valid channel is served, with memory for the
response, exactly when the size of the response fits sixteen bits. The options of the fake
Wiimotes' own requests give the MTU that was asked for. -/
theorem config_request_options (dev : Device) (ident : UInt8) (dcid size : UInt16) (chn : Channel)
    (options : List ConfigOption) (after : List UInt8) (p : Periphery) (junk : Nat → UInt8)
    (filled : (optionBytes options).length = size.toNat)
    (valid : (p.sessions dev.self).getChannelInfo dcid = some chn)
    (allocates : p.heap.outcome p.heap.calls = some junk) :
    (ConfigRequestServed dev ident dcid size chn options after p ↔ size.toNat + 18 < 65536) ∧
    ∀ handle remoteCid mtu flushTimeOut,
      Builds (injectL2capConfigReq handle remoteCid mtu flushTimeOut)
        (signalPacket handle l2capConfigReq l2capConfigReq (bytes16 (htole16 remoteCid) ++
          bytes16 (htole16 0) ++ optionBytes (requestOptions mtu flushTimeOut))) ∧
      lastMtu (requestOptions mtu flushTimeOut) l2capMtuDefault = mtu := by
  refine ⟨configRequestServed_iff ident filled valid allocates, ?_⟩
  intro handle remoteCid mtu flushTimeOut
  have builds := builds_configReq handle remoteCid mtu flushTimeOut
  unfold configReqPayload at builds
  rw [← optionBytes_requestOptions] at builds
  exact ⟨builds, lastMtu_requestOptions mtu flushTimeOut⟩

def controlChannelPeriphery : Periphery :=
  { (World.init .lenient).periphery with
    sessions := fun _ =>
      { Session.zero with psmHidCntlChn := ⟨true, .configPend, l2capPsmHidCntl, 0x40, 0x50, 0⟩ } }

/-- An unknown option, an MTU of 185, and five bytes that follow in the packet. -/
theorem config_request_options_unknown_and_mtu :
    ConfigRequestServed ⟨(World.init .lenient).core, 0⟩ 7 0x40 7 .hidCntl
      [⟨9, [1], by decide, by decide⟩, mtuOption 185] [1, 2, 3, 4, 5] controlChannelPeriphery :=
  (config_request_options ⟨(World.init .lenient).core, 0⟩ 7 0x40 7 .hidCntl
    [⟨9, [1], by decide, by decide⟩, mtuOption 185] [1, 2, 3, 4, 5] controlChannelPeriphery
    (fun _ => 0) rfl rfl rfl).1.mpr (by decide)

def emptyOption : ConfigOption := ⟨9, [], by decide, by decide⟩

theorem emptyOptions_length (count : Nat) :
    (optionBytes (List.replicate count emptyOption)).length = 2 * count := by
  induction count with
  | zero => rfl
  | succ count ih =>
      rw [List.replicate_succ, optionBytes_cons, List.length_append, ih, ConfigOption.bytes_length]
      simp only [emptyOption, List.length_nil]
      omega

/-- Options that fill 65518 bytes: the response would take 65536. -/
theorem long_config_request_not_served :
    (optionBytes (List.replicate 32759 emptyOption)).length = (65518 : UInt16).toNat ∧
    (controlChannelPeriphery.sessions 0).getChannelInfo 0x40 = some .hidCntl ∧
    controlChannelPeriphery.heap.outcome controlChannelPeriphery.heap.calls = some (fun _ => 0) ∧
    ¬ ConfigRequestServed ⟨(World.init .lenient).core, 0⟩ 7 0x40 65518 .hidCntl
      (List.replicate 32759 emptyOption) [] controlChannelPeriphery := by
  have filled : (optionBytes (List.replicate 32759 emptyOption)).length =
      (65518 : UInt16).toNat := emptyOptions_length 32759
  refine ⟨filled, rfl, rfl, ?_⟩
  intro served
  have allocates : controlChannelPeriphery.heap.outcome controlChannelPeriphery.heap.calls =
      some (fun _ => 0) := rfl
  have fits := (configRequestServed_iff 7 filled rfl allocates).mp served
  exact absurd fits (by decide)

end Fakemote
