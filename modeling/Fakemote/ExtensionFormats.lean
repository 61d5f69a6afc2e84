import Fakemote.DataReports
import Fakemote.FreshSession
import Mathlib.Data.List.Nodup

/-! The extension data of the Classic Controller and the Nunchuk, formatted by `button_map.c` and
read by the host. The host's layouts are those of the two peripherals. -/

namespace Fakemote

open BitFields Bytes

/-- Sticks of 6 and 5 bits, triggers of 5 bits and the buttons that are pressed. -/
structure ClassicState where
  leftX : UInt8
  leftY : UInt8
  rightX : UInt8
  rightY : UInt8
  leftTrigger : UInt8
  rightTrigger : UInt8
  buttons : UInt16
  deriving DecidableEq, Repr

/-- The right stick and the left trigger are spread over the bytes; a pressed button reads zero. -/
def hostClassic : List UInt8 → Option ClassicState
  | [b0, b1, b2, b3, b4, b5] =>
      some {
        leftX := b0 &&& 0x3F
        leftY := b1 &&& 0x3F
        rightX := ((b0 >>> 6) <<< 3) ||| (((b1 >>> 6) <<< 1) ||| (b2 >>> 7))
        rightY := b2 &&& 0x1F
        leftTrigger := (((b2 >>> 5) &&& 3) <<< 3) ||| (b3 >>> 5)
        rightTrigger := b3 &&& 0x1F
        buttons := ~~~word16 b4 b5 &&& classicCtrlButtonAll }
  | _ => none

structure NunchukState where
  stickX : UInt8
  stickY : UInt8
  accX : UInt16
  accY : UInt16
  accZ : UInt16
  c : Bool
  z : Bool
  deriving DecidableEq, Repr

/-- The low bits of the accelerometer share the last byte with the buttons. -/
def hostNunchuk : List UInt8 → Option NunchukState
  | [jx, jy, ax, ay, az, bt] =>
      some {
        stickX := jx
        stickY := jy
        accX := (ax.toUInt16 <<< 2) ||| ((bt >>> 2) &&& 3).toUInt16
        accY := (ay.toUInt16 <<< 2) ||| ((bt >>> 4) &&& 3).toUInt16
        accZ := (az.toUInt16 <<< 2) ||| (bt >>> 6).toUInt16
        c := decide ((bt >>> 1) &&& 1 = 0)
        z := decide (bt &&& 1 = 0) }
  | _ => none

/-- A pressed button of the controller is mapped to something that `has`. -/
def MapsTo {α : Type} (has : α → Prop) (map : Nat → α) (count : Nat) (buttons : UInt32) : Prop :=
  ∃ index < count, buttons.toNat.testBit index = true ∧ has (map index)

def stickPosition (value : Int16) : Int := 0x80 + value.toInt / 256

structure ClassicRecovers (egc : Platform) (buttons : UInt32) (axes : Nat → Int16)
    (state : ClassicState) : Prop where
  leftX : (state.leftX.toNat : Int) = stickPosition (axes egc.axisLeftX) / 4
  leftY : (state.leftY.toNat : Int) = stickPosition (axes egc.axisLeftY) / 4
  rightX : (state.rightX.toNat : Int) = stickPosition (axes egc.axisRightX) / 8
  rightY : (state.rightY.toNat : Int) = stickPosition (axes egc.axisRightY) / 8
  leftTrigger : state.leftTrigger = if state.buttons &&& classicCtrlButtonFullL ≠ 0 then 31 else 0
  rightTrigger :
    state.rightTrigger = if state.buttons &&& classicCtrlButtonFullR ≠ 0 then 31 else 0
  buttons : ∀ mask, state.buttons &&& mask ≠ 0 ↔
    MapsTo (fun mapped => mapped &&& mask ≠ 0) egc.classicButtonMap egc.buttonCount buttons

structure NunchukRecovers (egc : Platform) (buttons : UInt32) (axes : Nat → Int16)
    (ax ay az : UInt16) (state : NunchukState) : Prop where
  stickX : (state.stickX.toNat : Int) = stickPosition (axes egc.axisLeftX)
  stickY : (state.stickY.toNat : Int) = stickPosition (axes egc.axisLeftY)
  accX : state.accX = ax &&& 0x3FF
  accY : state.accY = ay &&& 0x3FF
  accZ : state.accZ = az &&& 0x3FF
  c : state.c = true ↔
    MapsTo (fun mapped => mapped &&& nunchukButtonC ≠ 0) egc.nunchukButtonMap egc.buttonCount buttons
  z : state.z = true ↔
    MapsTo (fun mapped => mapped &&& nunchukButtonZ ≠ 0) egc.nunchukButtonMap egc.buttonCount buttons

/-- The axis enumerators of the controller library, as an enumeration has them. -/
structure Platform.Enumerated (egc : Platform) : Prop where
  distinct : [egc.axisLeftX, egc.axisLeftY, egc.axisRightX, egc.axisRightY].Nodup
  below : ∀ axis ∈ [egc.axisLeftX, egc.axisLeftY, egc.axisRightX, egc.axisRightY],
    axis < egc.axisCount

theorem testBit_shift (buttons : UInt32) (index : Nat) :
    (buttons >>> 1).toNat.testBit index = buttons.toNat.testBit (index + 1) := by
  have shifted : (buttons >>> 1).toNat = buttons.toNat >>> 1 := UInt32.toNat_shiftRight _ _
  rw [shifted, Nat.testBit_shiftRight, Nat.add_comm]

theorem testBit_zero (buttons : UInt32) :
    buttons.toNat.testBit 0 = true ↔ buttons &&& (1 : UInt32) ≠ 0 := by
  have low : (buttons &&& (1 : UInt32)).toNat = buttons.toNat % 2 := by
    rw [UInt32.toNat_and]
    exact Nat.and_one_is_mod _
  rw [Nat.testBit_zero, decide_eq_true_iff, ← low, ne_eq, ← UInt32.toNat_inj, low]
  simp only [UInt32.toNat_zero]
  omega

theorem mapsTo_succ {α : Type} {has : α → Prop} {map : Nat → α} {count : Nat}
    {buttons : UInt32} : MapsTo has map (count + 1) buttons ↔
      (buttons &&& (1 : UInt32) ≠ 0 ∧ has (map 0)) ∨
        MapsTo has (fun index => map (index + 1)) count (buttons >>> 1) := by
  unfold MapsTo
  rw [Nat.exists_lt_succ_left, testBit_zero]
  simp only [testBit_shift]

theorem mapButtons_has {α : Type} [OrOp α] {has : α → Prop} {map : Nat → α}
    (join : ∀ first second, has (first ||| second) ↔ has first ∨ has second) (count : Nat) :
    ∀ (index : Nat) (buttons : UInt32) (mapped : α),
      has (mapButtons map count index buttons mapped) ↔
        has mapped ∨ MapsTo has (fun i => map (index + i)) count buttons := by
  induction count with
  | zero =>
      intro index buttons mapped
      simp [mapButtons, MapsTo]
  | succ count ih =>
      intro index buttons mapped
      have later : (fun i => map (index + 1 + i)) = fun i => map (index + (i + 1)) := by
        funext i
        congr 1
        omega
      rw [mapButtons, ih, mapsTo_succ, later, Nat.add_zero]
      by_cases pressed : buttons &&& (1 : UInt32) ≠ 0
      · rw [if_pos pressed, join, or_assoc]
        simp only [pressed, ne_eq, not_false_eq_true, true_and]
      · rw [if_neg pressed]
        simp only [pressed, false_and, false_or]

theorem mapAxes_other {map : Nat → UInt8} {axes : Nat → Int16} {entry : Nat} (count : Nat) :
    ∀ (index : Nat) (mapped : Nat → UInt8), (∀ i, index ≤ i → (map i).toNat ≠ entry + 1) →
      mapAxes map axes count index mapped entry = mapped entry := by
  induction count with
  | zero =>
      intro index mapped elsewhere
      rfl
  | succ count ih =>
      intro index mapped elsewhere
      rw [mapAxes, ih _ _ fun i later => elsewhere i (by omega)]
      split
      case isTrue named =>
          have here := elsewhere index (Nat.le_refl _)
          have some : (map index).toNat ≠ 0 := by
            intro zero
            exact named (UInt8.toNat_inj.mp zero)
          exact Function.update_of_ne (by omega) _ _
      case isFalse => rfl

theorem mapAxes_entry {map : Nat → UInt8} {axes : Nat → Int16} {entry axis : Nat}
    (goes : (map axis).toNat = entry + 1) (only : ∀ i, (map i).toNat = entry + 1 → i = axis)
    (count : Nat) : ∀ (index : Nat) (mapped : Nat → UInt8), index ≤ axis → axis < index + count →
      mapAxes map axes count index mapped entry = s16ToU8 (axes axis) := by
  induction count with
  | zero =>
      intro index mapped least most
      omega
  | succ count ih =>
      intro index mapped least most
      rw [mapAxes]
      by_cases here : index = axis
      · subst here
        have named : map index ≠ 0 := by
          intro zero
          rw [zero] at goes
          cases goes
        rw [mapAxes_other, if_pos named, goes, Nat.add_sub_cancel, Function.update_self]
        intro i later same
        have only := only i same
        omega
      · exact ih _ _ (by omega) (by omega)

theorem tableEntry_eq_iff {α : Type} {zero value : α} {table : List (Nat × α)}
    (distinct : (table.map Prod.fst).Nodup) (named : value ≠ zero) (index : Nat) :
    tableEntry zero table index = value ↔ (index, value) ∈ table := by
  induction table with
  | nil => simpa [tableEntry] using named.symm
  | cons head table ih =>
      rw [List.map_cons, List.nodup_cons] at distinct
      have rest := ih distinct.2
      unfold tableEntry at rest ⊢
      rw [List.lookup_cons, List.mem_cons]
      by_cases here : index = head.1
      · subst here
        have absent : (head.1, value) ∉ table := fun member =>
          distinct.1 (List.mem_map.mpr ⟨_, member, rfl⟩)
        simp [absent, Prod.ext_iff, eq_comm]
      · have other : (index, value) ≠ head := fun same => here (congrArg Prod.fst same)
        rw [beq_false_of_ne here]
        simpa [other] using rest

theorem mapAxes_table {table : List (Nat × UInt8)} {axes : Nat → Int16} {count axis : Nat}
    {value : UInt8} (keys : (table.map Prod.fst).Nodup) (values : (table.map Prod.snd).Nodup)
    (listed : (axis, value) ∈ table) (named : value ≠ 0) (below : axis < count) :
    mapAxes (tableEntry 0 table) axes count 0 (fun _ => 0) (value.toNat - 1) =
      s16ToU8 (axes axis) := by
  have positive : value.toNat ≠ 0 := fun zero => named (UInt8.toNat_inj.mp zero)
  have back : value.toNat - 1 + 1 = value.toNat := by omega
  apply mapAxes_entry
  · rw [(tableEntry_eq_iff keys named axis).mpr listed, back]
  · intro i goes
    rw [back] at goes
    have member := (tableEntry_eq_iff keys named i).mp (UInt8.toNat_inj.mp goes)
    exact congrArg Prod.fst (List.inj_on_of_nodup_map values member listed rfl)
  · omega
  · omega

theorem s16ToU8_toNat (value : Int16) : ((s16ToU8 value).toNat : Int) = stickPosition value := by
  have least := value.le_toInt
  have most := value.toInt_lt
  unfold s16ToU8 intToU8 stickPosition
  rw [UInt8.toNat_ofNat']
  omega

theorem upper_toNat {field left : UInt8} (small : field.toNat < 4) (fits : left.toNat < 64) :
    ((field <<< 6) ||| (left &&& 0x3F)).toNat = field.toNat * 64 + left.toNat := by
  have low := @low_toNat 0x3F 6 64 rfl rfl left
  rw [@pack_toNat 6 6 64 rfl rfl (by decide) _ _ (by omega) (by omega)]
  omega

theorem middle_toNat {bit field right : UInt8} (single : bit.toNat < 2) (small : field.toNat < 4)
    (fits : right.toNat < 32) :
    (((bit <<< 7) ||| (field <<< 5)) ||| (right &&& 0x1F)).toNat =
      bit.toNat * 128 + field.toNat * 32 + right.toNat := by
  have low := @low_toNat 0x1F 5 32 rfl rfl right
  have rest := @pack_toNat 5 5 32 rfl rfl (by decide) field (right &&& 0x1F) (by omega) (by omega)
  rw [UInt8.or_assoc, @pack_toNat 7 7 128 rfl rfl (by decide) _ _ (by omega) (by omega)]
  omega

theorem lower_toNat {field right : UInt8} (small : field.toNat < 8) (fits : right.toNat < 32) :
    ((field <<< 5) ||| (right &&& 0x1F)).toNat = field.toNat * 32 + right.toNat := by
  have low := @low_toNat 0x1F 5 32 rfl rfl right
  rw [@pack_toNat 5 5 32 rfl rfl (by decide) _ _ (by omega) (by omega)]
  omega

/-- The parts of a field of five bits that is spread over three bytes. -/
theorem spread_toNat {field : UInt8} (fits : field.toNat < 32) :
    ((field >>> 3) &&& 3).toNat = field.toNat / 8 ∧
      ((field >>> 1) &&& 3).toNat = field.toNat / 2 % 4 ∧
      (field &&& 1).toNat = field.toNat % 2 ∧ (field &&& 7).toNat = field.toNat % 8 := by
  have high := @high_toNat 3 3 8 rfl rfl (by decide) field
  have middle := @high_toNat 1 1 2 rfl rfl (by decide) field
  have top := @low_toNat 3 2 4 rfl rfl (field >>> 3)
  have between := @low_toNat 3 2 4 rfl rfl (field >>> 1)
  refine ⟨by omega, by omega, ?_, ?_⟩
  · exact @low_toNat 1 1 2 rfl rfl field
  · exact @low_toNat 7 3 8 rfl rfl field

structure ClassicPacked (state : ClassicState) (b0 b1 b2 b3 : UInt8) : Prop where
  leftX : state.leftX.toNat < 64
  leftY : state.leftY.toNat < 64
  rightX : state.rightX.toNat < 32
  rightY : state.rightY.toNat < 32
  leftTrigger : state.leftTrigger.toNat < 32
  rightTrigger : state.rightTrigger.toNat < 32
  b0 : b0.toNat = state.rightX.toNat / 8 * 64 + state.leftX.toNat
  b1 : b1.toNat = state.rightX.toNat / 2 % 4 * 64 + state.leftY.toNat
  b2 : b2.toNat = state.rightX.toNat % 2 * 128 + state.leftTrigger.toNat / 8 * 32 +
    state.rightY.toNat
  b3 : b3.toNat = state.leftTrigger.toNat % 8 * 32 + state.rightTrigger.toNat

namespace ClassicPacked

variable {state : ClassicState} {b0 b1 b2 b3 : UInt8}

theorem readRightX (packed : ClassicPacked state b0 b1 b2 b3) :
    ((b0 >>> 6) <<< 3) ||| (((b1 >>> 6) <<< 1) ||| (b2 >>> 7)) = state.rightX := by
  obtain ⟨leftX, leftY, rightX, rightY, leftTrigger, rightTrigger, zero, one, two, three⟩ := packed
  have top := @high_toNat 6 6 64 rfl rfl (by decide) b0
  have between := @high_toNat 6 6 64 rfl rfl (by decide) b1
  have last := @high_toNat 7 7 128 rfl rfl (by decide) b2
  have rest := @pack_toNat 1 1 2 rfl rfl (by decide) (b1 >>> 6) (b2 >>> 7) (by omega) (by omega)
  apply UInt8.toNat_inj.mp
  rw [@pack_toNat 3 3 8 rfl rfl (by decide) _ _ (by omega) (by omega)]
  omega

theorem readLeftTrigger (packed : ClassicPacked state b0 b1 b2 b3) :
    (((b2 >>> 5) &&& 3) <<< 3) ||| (b3 >>> 5) = state.leftTrigger := by
  obtain ⟨leftX, leftY, rightX, rightY, leftTrigger, rightTrigger, zero, one, two, three⟩ := packed
  have shifted := @high_toNat 5 5 32 rfl rfl (by decide) b2
  have top := @low_toNat 3 2 4 rfl rfl (b2 >>> 5)
  have last := @high_toNat 5 5 32 rfl rfl (by decide) b3
  apply UInt8.toNat_inj.mp
  rw [@pack_toNat 3 3 8 rfl rfl (by decide) _ _ (by omega) (by omega)]
  omega

theorem read (packed : ClassicPacked state b0 b1 b2 b3) (b4 b5 : UInt8)
    (buttons : ~~~word16 b4 b5 &&& classicCtrlButtonAll = state.buttons) :
    hostClassic [b0, b1, b2, b3, b4, b5] = some state := by
  have leftX : b0 &&& 0x3F = state.leftX := by
    apply UInt8.toNat_inj.mp
    rw [@low_toNat 0x3F 6 64 rfl rfl, packed.b0]
    have fits := packed.leftX
    omega
  have leftY : b1 &&& 0x3F = state.leftY := by
    apply UInt8.toNat_inj.mp
    rw [@low_toNat 0x3F 6 64 rfl rfl, packed.b1]
    have fits := packed.leftY
    omega
  have rightY : b2 &&& 0x1F = state.rightY := by
    apply UInt8.toNat_inj.mp
    rw [@low_toNat 0x1F 5 32 rfl rfl, packed.b2]
    have fits := packed.rightY
    omega
  have rightTrigger : b3 &&& 0x1F = state.rightTrigger := by
    apply UInt8.toNat_inj.mp
    rw [@low_toNat 0x1F 5 32 rfl rfl, packed.b3]
    have fits := packed.rightTrigger
    omega
  simp only [hostClassic, leftX, leftY, packed.readRightX, rightY, packed.readLeftTrigger,
    rightTrigger, buttons]

end ClassicPacked

theorem hostClassic_buttons (buttons : UInt16) :
    ~~~(~~~buttons &&& classicCtrlButtonAll) &&& classicCtrlButtonAll =
      buttons &&& classicCtrlButtonAll := by
  apply UInt16.toBitVec_inj.mp
  apply BitVec.eq_of_getLsbD_eq
  intro i inside
  simp only [UInt16.toBitVec_and, UInt16.toBitVec_not, BitVec.getLsbD_and, BitVec.getLsbD_not,
    inside, decide_true, Bool.true_and, Bool.not_and, Bool.not_not]
  cases classicCtrlButtonAll.toBitVec.getLsbD i
  · simp
  · simp

theorem hostClassic_format (buttons : UInt16) (analogAxis : Nat → UInt8) :
    hostClassic (bmClassicFormat buttons analogAxis) = some {
      leftX := analogAxis 0 >>> 2
      leftY := analogAxis 1 >>> 2
      rightX := analogAxis 2 >>> 3
      rightY := analogAxis 3 >>> 3
      leftTrigger := if buttons &&& classicCtrlButtonFullL ≠ 0 then 31 else 0
      rightTrigger := if buttons &&& classicCtrlButtonFullR ≠ 0 then 31 else 0
      buttons := buttons &&& classicCtrlButtonAll } := by
  have six (axis : UInt8) : (axis >>> 2).toNat < 64 := by
    have bound := axis.toNat_lt
    rw [@high_toNat 2 2 4 rfl rfl (by decide)]
    omega
  have five (axis : UInt8) : (axis >>> 3).toNat < 32 := by
    have bound := axis.toNat_lt
    rw [@high_toNat 3 3 8 rfl rfl (by decide)]
    omega
  have trigger (mask : UInt16) :
      (if buttons &&& mask ≠ 0 then (31 : UInt8) else 0).toNat < 32 := by
    split
    case isTrue => decide
    case isFalse => decide
  have axis := five (analogAxis 2)
  have full := trigger classicCtrlButtonFullL
  obtain ⟨top, between, bit, -⟩ := spread_toNat axis
  obtain ⟨high, -, -, low⟩ := spread_toNat full
  apply ClassicPacked.read
  case buttons => rw [word16_bytes, hostClassic_buttons]
  case packed =>
    constructor
    · exact six _
    · exact six _
    · exact five _
    · exact five _
    · exact trigger _
    · exact trigger _
    · rw [upper_toNat (by omega) (six _), top]
    · rw [upper_toNat (by omega) (six _), between]
    · rw [middle_toNat (by omega) (by omega) (five _), bit, high]
    · rw [lower_toNat (by omega) (trigger _), low]

theorem classicButtonMap_within (egc : Platform) (index : Nat) :
    Within classicCtrlButtonAll (egc.classicButtonMap index) := by
  unfold Platform.classicButtonMap
  apply tableEntry_all (Within classicCtrlButtonAll)
  · exact Within.zero _
  · simp only [List.mem_cons, List.not_mem_nil, or_false, forall_eq_or_imp, forall_eq, Within]
    decide

theorem low2_toNat (axis : UInt16) : (axis &&& 3).toUInt8.toNat = axis.toNat % 4 := by
  have low : (axis &&& 3).toNat = axis.toNat % 4 := by
    rw [UInt16.toNat_and]
    exact Nat.and_two_pow_sub_one_eq_mod axis.toNat 2
  rw [UInt16.toNat_toUInt8, low]
  omega

theorem acceleration_join {axis : UInt16} {low : UInt8} (same : low.toNat = axis.toNat % 4) :
    ((axis >>> (2 : UInt16)).toUInt8.toUInt16 <<< 2) ||| low.toUInt16 = axis &&& 0x3FF := by
  have ten : (axis &&& 0x3FF).toNat = axis.toNat % 1024 := by
    rw [UInt16.toNat_and]
    exact Nat.and_two_pow_sub_one_eq_mod axis.toNat 10
  have byte : (axis >>> (2 : UInt16)).toUInt8.toUInt16.toNat = axis.toNat / 4 % 256 := by
    rw [UInt8.toNat_toUInt16, UInt16.toNat_toUInt8, UInt16.toNat_shiftRight]
    exact congrArg (· % 256) (Nat.shiftRight_eq_div_pow axis.toNat 2)
  have moved : ((axis >>> (2 : UInt16)).toUInt8.toUInt16 <<< 2).toNat =
      (axis.toNat / 4 % 256) <<< 2 := by
    have shifted : (UInt16.toNat 2) % 16 = 2 := rfl
    rw [UInt16.toNat_shiftLeft, byte, shifted, Nat.shiftLeft_eq]
    exact Nat.mod_eq_of_lt (by omega)
  apply UInt16.toNat_inj.mp
  rw [UInt16.toNat_or, moved, UInt8.toNat_toUInt16, same,
    ← Nat.shiftLeft_add_eq_or_of_lt (show axis.toNat % 4 < 4 by omega), Nat.shiftLeft_eq, ten]
  omega

structure NunchukPacked (x y z c b bt : UInt8) : Prop where
  fitsX : x.toNat < 4
  fitsY : y.toNat < 4
  fitsZ : z.toNat < 4
  fitsC : c.toNat < 2
  fitsB : b.toNat < 2
  byte : bt.toNat = z.toNat * 64 + y.toNat * 16 + x.toNat * 4 + c.toNat * 2 + b.toNat

theorem nunchukPacked {x y z c b : UInt8} (xs : x.toNat < 4) (ys : y.toNat < 4)
    (zs : z.toNat < 4) (cs : c.toNat < 2) (bs : b.toNat < 2) :
    NunchukPacked x y z c b
      ((((z <<< 6) ||| (y <<< 4)) ||| (x <<< 2)) ||| (c <<< 1) ||| b) where
  fitsX := xs
  fitsY := ys
  fitsZ := zs
  fitsC := cs
  fitsB := bs
  byte := by
    have one := @pack_toNat 1 1 2 rfl rfl (by decide) c b (by omega) (by omega)
    have two := @pack_toNat 2 2 4 rfl rfl (by decide) x ((c <<< 1) ||| b) (by omega) (by omega)
    have three := @pack_toNat 4 4 16 rfl rfl (by decide) y ((x <<< 2) ||| ((c <<< 1) ||| b))
      (by omega) (by omega)
    rw [UInt8.or_assoc, UInt8.or_assoc, UInt8.or_assoc,
      @pack_toNat 6 6 64 rfl rfl (by decide) _ _ (by omega) (by omega)]
    omega

namespace NunchukPacked

variable {x y z c b bt : UInt8}

theorem readX (packed : NunchukPacked x y z c b bt) : ((bt >>> 2) &&& 3).toNat = x.toNat := by
  obtain ⟨xs, ys, zs, cs, bs, byte⟩ := packed
  rw [@low_toNat 3 2 4 rfl rfl, @high_toNat 2 2 4 rfl rfl (by decide)]
  omega

theorem readY (packed : NunchukPacked x y z c b bt) : ((bt >>> 4) &&& 3).toNat = y.toNat := by
  obtain ⟨xs, ys, zs, cs, bs, byte⟩ := packed
  rw [@low_toNat 3 2 4 rfl rfl, @high_toNat 4 4 16 rfl rfl (by decide)]
  omega

theorem readZ (packed : NunchukPacked x y z c b bt) : (bt >>> 6).toNat = z.toNat := by
  obtain ⟨xs, ys, zs, cs, bs, byte⟩ := packed
  rw [@high_toNat 6 6 64 rfl rfl (by decide)]
  omega

theorem readButtonC (packed : NunchukPacked x y z c b bt) : (bt >>> 1) &&& 1 = 0 ↔ c = 0 := by
  obtain ⟨xs, ys, zs, cs, bs, byte⟩ := packed
  rw [← UInt8.toNat_inj, ← UInt8.toNat_inj, @low_toNat 1 1 2 rfl rfl,
    @high_toNat 1 1 2 rfl rfl (by decide), UInt8.toNat_zero]
  omega

theorem readButtonZ (packed : NunchukPacked x y z c b bt) : bt &&& 1 = 0 ↔ b = 0 := by
  obtain ⟨xs, ys, zs, cs, bs, byte⟩ := packed
  rw [← UInt8.toNat_inj, ← UInt8.toNat_inj, @low_toNat 1 1 2 rfl rfl, UInt8.toNat_zero]
  omega

end NunchukPacked

theorem hostNunchuk_format (buttons : UInt8) (analogAxis : Nat → UInt8) (ax ay az : UInt16) :
    hostNunchuk (bmNunchukFormat buttons analogAxis ax ay az) = some {
      stickX := analogAxis 0
      stickY := analogAxis 1
      accX := ax &&& 0x3FF
      accY := ay &&& 0x3FF
      accZ := az &&& 0x3FF
      c := decide (buttons &&& nunchukButtonC ≠ 0)
      z := decide (buttons &&& nunchukButtonZ ≠ 0) } := by
  have flag (mask : UInt8) : (if buttons &&& mask = 0 then (1 : UInt8) else 0).toNat < 2 := by
    split
    case isTrue => decide
    case isFalse => decide
  have released (mask : UInt8) :
      (if buttons &&& mask = 0 then (1 : UInt8) else 0) = 0 ↔ buttons &&& mask ≠ 0 := by
    split
    case isTrue none => simp [none]
    case isFalse some => simp [some]
  have small (axis : UInt16) : (axis &&& 3).toUInt8.toNat < 4 := by
    rw [low2_toNat]
    omega
  have packed := nunchukPacked (small ax) (small ay) (small az) (flag nunchukButtonC)
    (flag nunchukButtonZ)
  have accX := acceleration_join (packed.readX.trans (low2_toNat ax))
  have accY := acceleration_join (packed.readY.trans (low2_toNat ay))
  have accZ := acceleration_join (packed.readZ.trans (low2_toNat az))
  simp only [bmNunchukFormat, hostNunchuk, accX, accY, accZ, packed.readButtonC,
    packed.readButtonZ, released]

section Tables

variable (egc : Platform) (buttons : UInt32) (axes : Nat → Int16)

def classicOf : Option ClassicState :=
  hostClassic (bmMapClassic egc.buttonCount buttons egc.axisCount axes egc.classicButtonMap
    egc.classicAnalogAxisMap)

def nunchukOf (ax ay az : UInt16) : Option NunchukState :=
  hostNunchuk (bmMapNunchuk egc.buttonCount buttons egc.axisCount axes ax ay az
    egc.nunchukButtonMap egc.nunchukAnalogAxisMap)

end Tables

/-- The sticks of the second state are where those of the first are or farther, as far as the axes
that move them are. -/
structure ClassicFollows (egc : Platform) (first second : Nat → Int16)
    (one two : ClassicState) : Prop where
  leftX : first egc.axisLeftX ≤ second egc.axisLeftX → one.leftX ≤ two.leftX
  leftY : first egc.axisLeftY ≤ second egc.axisLeftY → one.leftY ≤ two.leftY
  rightX : first egc.axisRightX ≤ second egc.axisRightX → one.rightX ≤ two.rightX
  rightY : first egc.axisRightY ≤ second egc.axisRightY → one.rightY ≤ two.rightY

structure NunchukFollows (egc : Platform) (first second : Nat → Int16)
    (one two : NunchukState) : Prop where
  stickX : first egc.axisLeftX ≤ second egc.axisLeftX → one.stickX ≤ two.stickX
  stickY : first egc.axisLeftY ≤ second egc.axisLeftY → one.stickY ≤ two.stickY

theorem stick_follows {one two : UInt8} {first second : Int16} {size : Int} (positive : 0 < size)
    (before : (one.toNat : Int) = stickPosition first / size)
    (after : (two.toNat : Int) = stickPosition second / size) (le : first ≤ second) :
    one ≤ two := by
  have ordered := Int16.le_iff_toInt_le.mp le
  have position : stickPosition first ≤ stickPosition second := by
    unfold stickPosition
    omega
  have shares := Int.ediv_le_ediv positive position
  apply UInt8.le_iff_toNat_le.mpr
  omega

theorem or_and_ne_zero16 (mask first second : UInt16) :
    (first ||| second) &&& mask ≠ 0 ↔ first &&& mask ≠ 0 ∨ second &&& mask ≠ 0 := by
  rw [and_or_distrib, ne_eq, UInt16.or_eq_zero_iff, not_and_or]

theorem or_and_ne_zero8 (mask first second : UInt8) :
    (first ||| second) &&& mask ≠ 0 ↔ first &&& mask ≠ 0 ∨ second &&& mask ≠ 0 := by
  have distributed : (first ||| second) &&& mask = (first &&& mask) ||| (second &&& mask) :=
    UInt8.toBitVec_inj.mp BitVec.and_or_distrib_right
  rw [distributed, ne_eq, UInt8.or_eq_zero_iff, not_and_or]

theorem Platform.Enumerated.classicAxis {egc : Platform} (enumerated : egc.Enumerated)
    (axes : Nat → Int16) {axis : Nat} {value : UInt8}
    (listed : (axis, value) ∈ [(egc.axisLeftX, bmClassicAnalogAxisLeftX),
      (egc.axisLeftY, bmClassicAnalogAxisLeftY), (egc.axisRightX, bmClassicAnalogAxisRightX),
      (egc.axisRightY, bmClassicAnalogAxisRightY)]) :
    mapAxes egc.classicAnalogAxisMap axes egc.axisCount 0 (fun _ => 0) (value.toNat - 1) =
      s16ToU8 (axes axis) := by
  apply mapAxes_table
  case keys => exact enumerated.distinct
  case values =>
    have distinct : [bmClassicAnalogAxisLeftX, bmClassicAnalogAxisLeftY,
        bmClassicAnalogAxisRightX, bmClassicAnalogAxisRightY].Nodup := by decide
    exact distinct
  case listed => exact listed
  case named =>
    simp only [List.mem_cons, Prod.mk.injEq, List.not_mem_nil, or_false] at listed
    rcases listed with ⟨-, rfl⟩ | ⟨-, rfl⟩ | ⟨-, rfl⟩ | ⟨-, rfl⟩ <;> decide
  case below => exact enumerated.below _ (List.mem_map_of_mem (f := Prod.fst) listed)

theorem Platform.Enumerated.nunchukAxis {egc : Platform} (enumerated : egc.Enumerated)
    (axes : Nat → Int16) {axis : Nat} {value : UInt8}
    (listed : (axis, value) ∈ [(egc.axisLeftX, bmNunchukAnalogAxisX),
      (egc.axisLeftY, bmNunchukAnalogAxisY)]) :
    mapAxes egc.nunchukAnalogAxisMap axes egc.axisCount 0 (fun _ => 0) (value.toNat - 1) =
      s16ToU8 (axes axis) := by
  have inside : axis ∈ [egc.axisLeftX, egc.axisLeftY] := List.mem_map_of_mem (f := Prod.fst) listed
  apply mapAxes_table
  case keys => exact enumerated.distinct.sublist (by simp)
  case values =>
    have distinct : [bmNunchukAnalogAxisX, bmNunchukAnalogAxisY].Nodup := by decide
    exact distinct
  case listed => exact listed
  case named =>
    simp only [List.mem_cons, Prod.mk.injEq, List.not_mem_nil, or_false] at listed
    rcases listed with ⟨-, rfl⟩ | ⟨-, rfl⟩ <;> decide
  case below => exact enumerated.below _ (List.mem_append_left [_, _] inside)

theorem stick_toNat {shift : UInt8} {bits size : Nat} (sized : size = 1 <<< bits)
    (shifted : shift.toNat = bits) (small : bits < 8) (value : Int16) :
    ((s16ToU8 value >>> shift).toNat : Int) = stickPosition value / size := by
  rw [high_toNat sized shifted small, ← s16ToU8_toNat]
  exact Int.natCast_ediv _ _

theorem classicOf_recovers {egc : Platform} (enumerated : egc.Enumerated) (buttons : UInt32)
    (axes : Nat → Int16) :
    ∃ state, classicOf egc buttons axes = some state ∧ ClassicRecovers egc buttons axes state := by
  have leftX : mapAxes egc.classicAnalogAxisMap axes egc.axisCount 0 (fun _ => 0) 0 = _ :=
    enumerated.classicAxis axes (.head _)
  have leftY : mapAxes egc.classicAnalogAxisMap axes egc.axisCount 0 (fun _ => 0) 1 = _ :=
    enumerated.classicAxis axes (.tail _ (.head _))
  have rightX : mapAxes egc.classicAnalogAxisMap axes egc.axisCount 0 (fun _ => 0) 2 = _ :=
    enumerated.classicAxis axes (.tail _ (.tail _ (.head _)))
  have rightY : mapAxes egc.classicAnalogAxisMap axes egc.axisCount 0 (fun _ => 0) 3 = _ :=
    enumerated.classicAxis axes (.tail _ (.tail _ (.tail _ (.head _))))
  have within : mapButtons egc.classicButtonMap egc.buttonCount 0 buttons 0 &&&
      classicCtrlButtonAll = mapButtons egc.classicButtonMap egc.buttonCount 0 buttons 0 :=
    mapButtons_within (classicButtonMap_within egc) egc.buttonCount 0 buttons 0 (Within.zero _)
  have read := hostClassic_format (mapButtons egc.classicButtonMap egc.buttonCount 0 buttons 0)
    (mapAxes egc.classicAnalogAxisMap axes egc.axisCount 0 fun _ => 0)
  rw [leftX, leftY, rightX, rightY, within] at read
  refine ⟨_, read, ?_⟩
  constructor
  · exact @stick_toNat 2 2 4 rfl rfl (by decide) _
  · exact @stick_toNat 2 2 4 rfl rfl (by decide) _
  · exact @stick_toNat 3 3 8 rfl rfl (by decide) _
  · exact @stick_toNat 3 3 8 rfl rfl (by decide) _
  · rfl
  · rfl
  · intro mask
    have mapped := @mapButtons_has _ _ (fun word => word &&& mask ≠ 0) egc.classicButtonMap
      (or_and_ne_zero16 mask) egc.buttonCount 0 buttons 0
    simpa using mapped

theorem nunchukOf_recovers {egc : Platform} (enumerated : egc.Enumerated) (buttons : UInt32)
    (axes : Nat → Int16) (ax ay az : UInt16) :
    ∃ state, nunchukOf egc buttons axes ax ay az = some state ∧
      NunchukRecovers egc buttons axes ax ay az state := by
  have stickX : mapAxes egc.nunchukAnalogAxisMap axes egc.axisCount 0 (fun _ => 0) 0 = _ :=
    enumerated.nunchukAxis axes (.head _)
  have stickY : mapAxes egc.nunchukAnalogAxisMap axes egc.axisCount 0 (fun _ => 0) 1 = _ :=
    enumerated.nunchukAxis axes (.tail _ (.head _))
  have mapped (mask : UInt8) := @mapButtons_has _ _ (fun word => word &&& mask ≠ 0)
    egc.nunchukButtonMap (or_and_ne_zero8 mask) egc.buttonCount 0 buttons 0
  have read := hostNunchuk_format (mapButtons egc.nunchukButtonMap egc.buttonCount 0 buttons 0)
    (mapAxes egc.nunchukAnalogAxisMap axes egc.axisCount 0 fun _ => 0) ax ay az
  rw [stickX, stickY] at read
  refine ⟨_, read, ?_⟩
  constructor
  · exact s16ToU8_toNat _
  · exact s16ToU8_toNat _
  · rfl
  · rfl
  · rfl
  · simpa using mapped nunchukButtonC
  · simpa using mapped nunchukButtonZ

theorem ClassicRecovers.follows {egc : Platform} {buttons pressed : UInt32}
    {first second : Nat → Int16} {one two : ClassicState}
    (here : ClassicRecovers egc buttons first one)
    (there : ClassicRecovers egc pressed second two) : ClassicFollows egc first second one two where
  leftX := stick_follows (by decide) here.leftX there.leftX
  leftY := stick_follows (by decide) here.leftY there.leftY
  rightX := stick_follows (by decide) here.rightX there.rightX
  rightY := stick_follows (by decide) here.rightY there.rightY

theorem NunchukRecovers.follows {egc : Platform} {buttons pressed : UInt32}
    {first second : Nat → Int16} {ax ay az ax' ay' az' : UInt16} {one two : NunchukState}
    (here : NunchukRecovers egc buttons first ax ay az one)
    (there : NunchukRecovers egc pressed second ax' ay' az' two) :
    NunchukFollows egc first second one two := by
  have whole {value : UInt8} {axis : Int16} (same : (value.toNat : Int) = stickPosition axis) :
      (value.toNat : Int) = stickPosition axis / 1 := same.trans (Int.ediv_one _).symm
  constructor
  · exact stick_follows Int.one_pos (whole here.stickX) (whole there.stickX)
  · exact stick_follows Int.one_pos (whole here.stickY) (whole there.stickY)

/-- The host reads from both formats the buttons that are mapped, the sticks and triggers at the
resolution of the format and the accelerometer, and the sticks follow the axes. -/
theorem extension_formats_round_trip {egc : Platform} (enumerated : egc.Enumerated)
    (buttons : UInt32) (axes : Nat → Int16) (ax ay az : UInt16) :
    (∃ state, classicOf egc buttons axes = some state ∧ ClassicRecovers egc buttons axes state ∧
      ∀ pressed moved after, classicOf egc pressed moved = some after →
        ClassicFollows egc axes moved state after) ∧
    ∃ state, nunchukOf egc buttons axes ax ay az = some state ∧
      NunchukRecovers egc buttons axes ax ay az state ∧
      ∀ pressed moved ax' ay' az' after, nunchukOf egc pressed moved ax' ay' az' = some after →
        NunchukFollows egc axes moved state after := by
  constructor
  · obtain ⟨state, read, recovers⟩ := classicOf_recovers enumerated buttons axes
    refine ⟨state, read, recovers, ?_⟩
    intro pressed moved after later
    obtain ⟨other, same, others⟩ := classicOf_recovers enumerated pressed moved
    rw [later, Option.some.injEq] at same
    exact recovers.follows (same ▸ others)
  · obtain ⟨state, read, recovers⟩ := nunchukOf_recovers enumerated buttons axes ax ay az
    refine ⟨state, read, recovers, ?_⟩
    intro pressed moved ax' ay' az' after later
    obtain ⟨other, same, others⟩ := nunchukOf_recovers enumerated pressed moved ax' ay' az'
    rw [later, Option.some.injEq] at same
    exact recovers.follows (same ▸ others)

def stretchedAxes (axis : Nat) : Int16 := if axis < 2 then -32768 else 32767

/-- All buttons are pressed as well. -/
theorem extension_formats_round_trip_stretched :
    ∃ state, classicOf Environment.gamepad.platform 0xFFFF stretchedAxes = some state ∧
      ClassicRecovers Environment.gamepad.platform 0xFFFF stretchedAxes state ∧
      state = ⟨0, 0, 31, 31, 31, 31, 0xFEFF⟩ := by
  have enumerated : Environment.gamepad.platform.Enumerated := ⟨by decide, by decide⟩
  have trip := extension_formats_round_trip enumerated 0xFFFF stretchedAxes 0 0 0
  obtain ⟨state, read, recovers, -⟩ := trip.1
  have computed : classicOf Environment.gamepad.platform 0xFFFF stretchedAxes =
      some ⟨0, 0, 31, 31, 31, 31, 0xFEFF⟩ := by decide +kernel
  exact ⟨state, read, recovers, Option.some.inj (read.symm.trans computed)⟩

end Fakemote
