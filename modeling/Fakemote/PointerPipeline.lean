import Fakemote.Library.BitFields
import Fakemote.PointerEmulation
import Fakemote.WiimoteState

/-! The pointer from a touch or a stick to the bytes of the IR camera, and back as the host decodes
them. -/

namespace Fakemote

open Bytes BitFields

def IrDot.Calibrated (dot : IrDot) : Prop :=
  irLowX ≤ dot.x.toNat ∧ (dot.x.toNat : Int) ≤ irHighX ∧
    irLowY ≤ dot.y.toNat ∧ (dot.y.toNat : Int) ≤ irHighY

structure Center where
  x : Int
  y : Int

namespace Center

/-- Around these points both dots are in the calibrated range. -/
def Inside (center : Center) : Prop :=
  irDotCenterMinX ≤ center.x ∧ center.x ≤ irDotCenterMaxX ∧
    irDotCenterMinY ≤ center.y ∧ center.y ≤ irDotCenterMaxY

def mirrored (center : Center) : Int := irDotCenterMinX + (irDotCenterMaxX - center.x)

def height (center : Center) (sensorBarPositionTop : Bool) : Int :=
  center.y + if sensorBarPositionTop then irVerticalOffset else -irVerticalOffset

def dot (center : Center) : IrDot := ⟨intToU16 center.x, intToU16 center.y⟩

end Center

/-- Two dots as the ends of a sensor bar around a point, in exact arithmetic. -/
structure SensorBar (sensorBarPositionTop : Bool) (center : Center) (first second : IrDot) :
    Prop where
  firstX : (first.x.toNat : Int) = center.mirrored - irHorizontalOffset
  secondX : (second.x.toNat : Int) = center.mirrored + irHorizontalOffset
  firstY : (first.y.toNat : Int) = center.height sensorBarPositionTop
  level : first.y = second.y
  apart : (second.x.toNat : Int) = first.x.toNat + 2 * irHorizontalOffset
  firstIn : first.Calibrated
  secondIn : second.Calibrated

theorem intToU16_exact (value : Int) (least : 0 ≤ value) (most : value < 65536) :
    ((intToU16 value).toNat : Int) = value := by
  rw [intToU16_toNat, Int.emod_eq_of_lt least most]

/-- Nothing wraps in `map_ir_dot`. -/
theorem mapIrDot_bar (center : Center) (inside : center.Inside) (sensorBarPositionTop : Bool)
    (irDots : List IrDot) :
    ∃ first second, mapIrDot sensorBarPositionTop center.dot irDots =
        first :: second :: irDots.drop 2 ∧
      SensorBar sensorBarPositionTop center first second := by
  obtain ⟨leastX, mostX, leastY, mostY⟩ := inside
  have edges : irDotCenterMinX = 191 ∧ irDotCenterMaxX = 832 ∧ irDotCenterMinY = 203 ∧
      irDotCenterMaxY = 564 ∧ irHorizontalOffset = 64 ∧ irVerticalOffset = 110 := by decide
  have corners : irLowX = 127 ∧ irHighX = 896 ∧ irLowY = 93 ∧ irHighY = 674 := by decide
  obtain ⟨minX, maxX, minY, maxY, horizontal, vertical⟩ := edges
  obtain ⟨lowX, highX, lowY, highY⟩ := corners
  have centerX : (center.dot.x.toNat : Int) = center.x :=
    intToU16_exact _ (by omega) (by omega)
  have centerY : (center.dot.y.toNat : Int) = center.y :=
    intToU16_exact _ (by omega) (by omega)
  have middle : 191 ≤ center.mirrored ∧ center.mirrored ≤ 832 := by
    unfold Center.mirrored
    omega
  have level : 93 ≤ center.height sensorBarPositionTop ∧
      center.height sensorBarPositionTop ≤ 674 := by
    unfold Center.height
    split <;> omega
  have left := intToU16_exact (center.mirrored - irHorizontalOffset) (by omega) (by omega)
  have right := intToU16_exact (center.mirrored + irHorizontalOffset) (by omega) (by omega)
  have up := intToU16_exact (center.height sensorBarPositionTop) (by omega) (by omega)
  let first : IrDot := ⟨intToU16 (center.mirrored - irHorizontalOffset),
    intToU16 (center.height sensorBarPositionTop)⟩
  let second : IrDot := ⟨intToU16 (center.mirrored + irHorizontalOffset),
    intToU16 (center.height sensorBarPositionTop)⟩
  refine ⟨first, second, ?_, left, right, up, rfl, ?_, ?_, ?_⟩
  · dsimp only [mapIrDot]
    rw [centerX, centerY]
    rfl
  · change ((intToU16 _).toNat : Int) = ((intToU16 _).toNat : Int) + _
    omega
  · unfold IrDot.Calibrated
    dsimp only [first]
    omega
  · unfold IrDot.Calibrated
    dsimp only [second]
    omega

/-- The dots that the pointer emulation computes, and the point that they are meant for. -/
inductive PointerDots (sensorBarPositionTop : Bool) : Center → List IrDot → Prop
  | direct {touchRes : Int} {x y : Int16} (irDots : List IrDot) :
      0 < touchRes → 0 ≤ x.toInt → x.toInt ≤ touchRes → 0 ≤ y.toInt → y.toInt ≤ touchRes →
      PointerDots sensorBarPositionTop
        ⟨irDotCenterMinX + x.toInt * (irDotCenterMaxX - irDotCenterMinX) / touchRes,
          irDotCenterMinY + y.toInt * (irDotCenterMaxY - irDotCenterMinY) / touchRes⟩
        (bmMapIrDirect sensorBarPositionTop touchRes x y irDots)
  | analogAxis (update : PointerUpdate) (state : BmIrEmulationState) :
      PointerDots sensorBarPositionTop
        ⟨(update.apply state).positionX.toNat,
          irDotCenterMinY + (irDotCenterMaxY - (update.apply state).positionY.toNat)⟩
        (bmMapIrAnalogAxis sensorBarPositionTop update.mode state update.numAnalogAxis
          update.analogAxis update.irAnalogAxisMap update.irDots).2

theorem ediv_share {value size : Int} (width : Int) (positive : 0 < size) (least : 0 ≤ value)
    (most : value ≤ size) (wide : 0 ≤ width) :
    (value * width).tdiv size = value * width / size ∧ 0 ≤ value * width / size ∧
      value * width / size ≤ width := by
  have product : 0 ≤ value * width := Int.mul_nonneg least wide
  refine ⟨Int.tdiv_eq_ediv_of_nonneg product, Int.ediv_nonneg product (Int.le_of_lt positive), ?_⟩
  apply Int.ediv_le_of_le_mul positive
  rw [Int.mul_comm width]
  exact Int.mul_le_mul_of_nonneg_right most wide

theorem PointerDots.bar {sensorBarPositionTop : Bool} {center : Center} {irDots : List IrDot}
    (dots : PointerDots sensorBarPositionTop center irDots) :
    ∃ first second rest, irDots = first :: second :: rest ∧
      SensorBar sensorBarPositionTop center first second := by
  have edges : irDotCenterMinX = 191 ∧ irDotCenterMaxX = 832 ∧ irDotCenterMinY = 203 ∧
      irDotCenterMaxY = 564 := by decide
  obtain ⟨minX, maxX, minY, maxY⟩ := edges
  cases dots with
  | @direct touchRes x y irDots positive leastX mostX leastY mostY =>
      obtain ⟨exactX, lowX, highX⟩ := ediv_share (irDotCenterMaxX - irDotCenterMinX)
        positive leastX mostX (by omega)
      obtain ⟨exactY, lowY, highY⟩ := ediv_share (irDotCenterMaxY - irDotCenterMinY)
        positive leastY mostY (by omega)
      unfold bmMapIrDirect
      rw [if_neg (Int.not_lt.mpr leastX), exactX, exactY]
      obtain ⟨first, second, same, bar⟩ := mapIrDot_bar
        ⟨irDotCenterMinX + x.toInt * (irDotCenterMaxX - irDotCenterMinX) / touchRes,
          irDotCenterMinY + y.toInt * (irDotCenterMaxY - irDotCenterMinY) / touchRes⟩
        (by unfold Center.Inside; dsimp only; omega) sensorBarPositionTop irDots
      exact ⟨first, second, _, same, bar⟩
  | analogAxis update state =>
      have x := update.apply_inRange state .x
      have y := update.apply_inRange state .y
      simp only [BmIrAxis.low, BmIrAxis.high, BmIrEmulationState.position] at x y
      obtain ⟨first, second, same, bar⟩ := mapIrDot_bar
        ⟨(update.apply state).positionX.toNat,
          irDotCenterMinY + (irDotCenterMaxY - (update.apply state).positionY.toNat)⟩
        (by unfold Center.Inside; dsimp only; omega) sensorBarPositionTop update.irDots
      dsimp only [Center.dot] at same
      rw [intToU16_self] at same
      exact ⟨first, second, _, same, bar⟩

def joinCoordinate (low high : UInt8) : UInt16 :=
  (high.toUInt16 <<< (8 : UInt16)) ||| low.toUInt16

def bits2 (byte : UInt8) (shift : UInt8) : UInt8 := (byte >>> shift) &&& (3 : UInt8)

/-- A dot that is not tracked has all bits of its coordinates set. -/
def visibleDot (dot : IrDot) : Option IrDot :=
  if dot.x = 0x3FF ∧ dot.y = 0x3FF then none else some dot

def decodeBasic : List UInt8 → List (Option IrDot)
  | [x1, y1, high, x2, y2] =>
      [visibleDot ⟨joinCoordinate x1 (bits2 high 4), joinCoordinate y1 (bits2 high 6)⟩,
        visibleDot ⟨joinCoordinate x2 (bits2 high 0), joinCoordinate y2 (bits2 high 2)⟩]
  | _ => []

def decodeDot : List UInt8 → List (Option IrDot)
  | x :: y :: high :: _ =>
      [visibleDot ⟨joinCoordinate x (bits2 high 4), joinCoordinate y (bits2 high 6)⟩]
  | _ => []

/-- The bytes of one group and the way to decode them; all modes have four dots. -/
def cameraLayout (mode : UInt8) : Option (Nat × Nat × (List UInt8 → List (Option IrDot))) :=
  if mode = irModeBasic then some (2, 5, decodeBasic)
  else if mode = irModeExtended then some (4, 3, decodeDot)
  else if mode = irModeFull then some (4, 9, decodeDot)
  else none

def decodeCamera (mode : UInt8) (data : List UInt8) : List (Option IrDot) :=
  match cameraLayout mode with
  | some (groups, size, decode) =>
      (List.range groups).flatMap fun i => decode ((data.drop (i * size)).take size)
  | none => []

def highBits (word : UInt16) : UInt8 := (word >>> (8 : UInt16)).toUInt8

theorem highBits_mem {word : UInt16} (fits : word.toNat < 1024) :
    highBits word ∈ [0, 1, 2, 3] ∧ (highBits word).toUInt16 = word >>> (8 : UInt16) := by
  have shift : (word >>> (8 : UInt16)).toNat = word.toNat / 256 := by
    rw [UInt16.toNat_shiftRight]
    exact Nat.shiftRight_eq_div_pow word.toNat 8
  refine ⟨?_, toUInt8_toUInt16 (by omega)⟩
  have value : (highBits word).toNat = word.toNat / 256 := by
    rw [highBits, UInt16.toNat_toUInt8, shift]
    omega
  simp only [List.mem_cons, List.not_mem_nil, or_false, ← UInt8.toNat_inj, value,
    UInt8.reduceToNat]
  omega

theorem joinCoordinate_split {word : UInt16} (fits : word.toNat < 1024) :
    joinCoordinate word.toUInt8 (highBits word) = word := by
  have low : word.toUInt8.toUInt16 = word &&& (0xFF : UInt16) := by
    apply UInt16.toNat_inj.mp
    rw [UInt8.toNat_toUInt16, UInt16.toNat_toUInt8, UInt16.toNat_and]
    exact (Nat.and_two_pow_sub_one_eq_mod word.toNat 8).symm
  rw [joinCoordinate, (highBits_mem fits).2, low]
  exact join (by decide) rfl word

theorem masked_highBits {word : UInt16} (fits : word.toNat < 1024) :
    word &&& (0x300 : UInt16) = (highBits word).toUInt16 <<< (8 : UInt16) := by
  have low : Within 0xFF word.toUInt8.toUInt16 := by
    apply UInt16.toNat_inj.mp
    rw [UInt16.toNat_and, UInt8.toNat_toUInt16]
    exact (Nat.and_two_pow_sub_one_eq_mod _ 8).trans (Nat.mod_eq_of_lt word.toUInt8.toNat_lt)
  have inside : ∀ high ∈ ([0, 1, 2, 3] : List UInt8),
      (high.toUInt16 <<< (8 : UInt16)) &&& (0x300 : UInt16) = high.toUInt16 <<< (8 : UInt16) := by
    decide
  calc
    word &&& (0x300 : UInt16)
      = joinCoordinate word.toUInt8 (highBits word) &&& (0x300 : UInt16) := by
        rw [joinCoordinate_split fits]
    _ = (highBits word).toUInt16 <<< (8 : UInt16) := by
        rw [joinCoordinate, and_or_distrib, inside _ (highBits_mem fits).1,
          low.and_of_apart (by decide), UInt16.or_zero]

def IrDot.Fits (dot : IrDot) : Prop := dot.x.toNat < 1024 ∧ dot.y.toNat < 1024

theorem joinDot {dot : IrDot} (fits : dot.Fits) :
    (⟨joinCoordinate dot.x.toUInt8 (highBits dot.x),
      joinCoordinate dot.y.toUInt8 (highBits dot.y)⟩ : IrDot) = dot := by
  rw [joinCoordinate_split fits.1, joinCoordinate_split fits.2]

theorem decodeDot_irDotBytes {dot : IrDot} (fits : dot.Fits) (rest : List UInt8) :
    decodeDot (Session.irDotBytes dot ++ rest) = [visibleDot dot] := by
  have packed : ∀ highY ∈ ([0, 1, 2, 3] : List UInt8), ∀ highX ∈ ([0, 1, 2, 3] : List UInt8),
      let byte := (((highY.toUInt16 <<< (8 : UInt16)) >>> (2 : UInt16)) |||
        ((highX.toUInt16 <<< (8 : UInt16)) >>> (4 : UInt16))).toUInt8 ||| irDotSize
      bits2 byte 4 = highX ∧ bits2 byte 6 = highY := by
    decide
  obtain ⟨first, second⟩ := packed _ (highBits_mem fits.2).1 _ (highBits_mem fits.1).1
  unfold Session.irDotBytes
  rw [masked_highBits fits.1, masked_highBits fits.2]
  dsimp only [List.cons_append, decodeDot]
  rw [first, second, joinDot fits]

theorem decodeBasic_packed {first second : IrDot} (one : first.Fits) (two : second.Fits) :
    decodeBasic [first.x.toUInt8, first.y.toUInt8,
        (highBits first.y <<< (6 : UInt8)) ||| (highBits first.x <<< (4 : UInt8)) |||
          (highBits second.y <<< (2 : UInt8)) ||| highBits second.x,
        second.x.toUInt8, second.y.toUInt8] =
      [visibleDot first, visibleDot second] := by
  have packed : ∀ a ∈ ([0, 1, 2, 3] : List UInt8), ∀ b ∈ ([0, 1, 2, 3] : List UInt8),
      ∀ c ∈ ([0, 1, 2, 3] : List UInt8), ∀ d ∈ ([0, 1, 2, 3] : List UInt8),
      let byte := (a <<< (6 : UInt8)) ||| (b <<< (4 : UInt8)) ||| (c <<< (2 : UInt8)) ||| d
      bits2 byte 4 = b ∧ bits2 byte 6 = a ∧ bits2 byte 0 = d ∧ bits2 byte 2 = c := by
    decide +kernel
  obtain ⟨firstX, firstY, secondX, secondY⟩ := packed _ (highBits_mem one.2).1 _
    (highBits_mem one.1).1 _ (highBits_mem two.2).1 _ (highBits_mem two.1).1
  dsimp only [decodeBasic]
  rw [firstX, firstY, secondX, secondY, joinDot one, joinDot two]

theorem highBits_masked {word : UInt16} (fits : word.toNat < 1024) :
    ((word >>> (8 : UInt16)) &&& (3 : UInt16)).toUInt8 = highBits word := by
  have inside : ∀ high ∈ ([0, 1, 2, 3] : List UInt8),
      (high.toUInt16 &&& (3 : UInt16)).toUInt8 = high := by
    decide
  rw [← (highBits_mem fits).2]
  exact inside _ (highBits_mem fits).1

theorem decodeCamera_irCameraData {mode : UInt8}
    (camera : mode = irModeBasic ∨ mode = irModeExtended ∨ mode = irModeFull) {first second : IrDot}
    (one : first.Fits) (two : second.Fits) :
    decodeCamera mode (Session.irCameraData mode first second) =
      [visibleDot first, visibleDot second, none, none] := by
  rcases camera with rfl | rfl | rfl
  · have data : Session.irCameraData irModeBasic first second =
        [first.x.toUInt8, first.y.toUInt8,
          (highBits first.y <<< (6 : UInt8)) ||| (highBits first.x <<< (4 : UInt8)) |||
            (highBits second.y <<< (2 : UInt8)) ||| highBits second.x,
          second.x.toUInt8, second.y.toUInt8, 0xFF, 0xFF, 0xFF, 0xFF, 0xFF] := by
      rw [← highBits_masked one.1, ← highBits_masked one.2, ← highBits_masked two.1,
        ← highBits_masked two.2]
      rfl
    have silent : decodeBasic [0xFF, 0xFF, 0xFF, 0xFF, 0xFF] = [none, none] := by decide
    have pair := decodeBasic_packed one two
    rw [data]
    change decodeBasic _ ++ (decodeBasic [0xFF, 0xFF, 0xFF, 0xFF, 0xFF] ++ []) = _
    rw [silent]
    exact congrArg (· ++ [none, none]) pair
  · have silent : decodeDot [0xFF, 0xFF, 0xF0] = [none] := by decide
    change decodeDot (Session.irDotBytes first ++ []) ++ (decodeDot (Session.irDotBytes second ++ [])
      ++ (decodeDot [0xFF, 0xFF, 0xF0] ++ (decodeDot [0xFF, 0xFF, 0xF0] ++ []))) = _
    rw [decodeDot_irDotBytes one, decodeDot_irDotBytes two, silent]
    rfl
  · have silent : decodeDot (List.replicate 9 0xFF) = [none] := by decide
    change decodeDot (Session.irDotBytes first ++ [0, 0x7F, 0, 0x7F, 0, 0xFF]) ++
      (decodeDot (Session.irDotBytes second ++ [0, 0x7F, 0, 0x7F, 0, 0xFF]) ++
        (decodeDot (List.replicate 9 0xFF) ++ (decodeDot (List.replicate 9 0xFF) ++ []))) = _
    rw [decodeDot_irDotBytes one, decodeDot_irDotBytes two, silent]
    rfl

theorem IrDot.Calibrated.fits {dot : IrDot} (calibrated : dot.Calibrated) :
    dot.Fits ∧ visibleDot dot = some dot := by
  have corners : irHighX = 896 ∧ irHighY = 674 := by decide
  obtain ⟨highX, highY⟩ := corners
  obtain ⟨-, x, -, y⟩ := calibrated
  refine ⟨⟨by omega, by omega⟩, if_neg fun untracked => ?_⟩
  have top := congrArg UInt16.toNat untracked.2
  have value : (0x3FF : UInt16).toNat = 1023 := rfl
  omega

def cameraBytes (mode : UInt8) : Nat :=
  if mode = irModeBasic then 10 else if mode = irModeExtended then 12 else cameraDataBytes

theorem irCameraData_length {mode : UInt8}
    (camera : mode = irModeBasic ∨ mode = irModeExtended ∨ mode = irModeFull)
    (first second : IrDot) :
    (Session.irCameraData mode first second).length = cameraBytes mode := by
  rcases camera with rfl | rfl | rfl <;> rfl

/-- The dots of the pointer are calibrated, level and as far apart as the sensor bar, and the host
gets them back from the camera data of every mode. -/
theorem pointer_round_trip {sensorBarPositionTop : Bool} {center : Center} {irDots : List IrDot}
    (dots : PointerDots sensorBarPositionTop center irDots) (wiimote : Session)
    (camera : wiimote.irRegs irRegsMode = irModeBasic ∨ wiimote.irRegs irRegsMode = irModeExtended ∨
      wiimote.irRegs irRegsMode = irModeFull) :
    ∃ first second rest, irDots = first :: second :: rest ∧
      SensorBar sensorBarPositionTop center first second ∧
      decodeCamera (wiimote.irRegs irRegsMode)
        ((wiimote.fakeWiimoteReportIrDots irDots).irRegs.read irRegsCameraData
          (cameraBytes (wiimote.irRegs irRegsMode))) =
        [some first, some second, none, none] := by
  obtain ⟨first, second, rest, rfl, bar⟩ := dots.bar
  obtain ⟨one, firstSeen⟩ := bar.firstIn.fits
  obtain ⟨two, secondSeen⟩ := bar.secondIn.fits
  refine ⟨first, second, rest, rfl, bar, ?_⟩
  have written : (wiimote.fakeWiimoteReportIrDots (first :: second :: rest)).irRegs =
      wiimote.irRegs.write irRegsCameraData
        (Session.irCameraData (wiimote.irRegs irRegsMode) first second) := rfl
  rw [written, ← irCameraData_length camera first second, Registers.read_write_same,
    decodeCamera_irCameraData camera one two, firstSeen, secondSeen]

def fullCamera : Session := { Session.zero with irRegs := fun _ => irModeFull }

/-- A touch in the corner, in the full mode. -/
theorem pointer_round_trip_corner :
    ∃ first second rest, bmMapIrDirect true 1000 1000 0 [] = first :: second :: rest ∧
      first.x.toNat = 127 ∧ second.x.toNat = 255 ∧
      decodeCamera irModeFull
        ((fullCamera.fakeWiimoteReportIrDots (first :: second :: rest)).irRegs.read irRegsCameraData
          (cameraBytes irModeFull)) = [some first, some second, none, none] := by
  obtain ⟨first, second, rest, same, bar, decoded⟩ := pointer_round_trip
    (@PointerDots.direct true 1000 1000 0 [] (by decide) (by decide) (by decide) (by decide)
      (by decide)) fullCamera (Or.inr (Or.inr rfl))
  have left := bar.firstX
  have right := bar.secondX
  rw [same] at decoded
  exact ⟨first, second, rest, same, Int.ofNat.inj left, Int.ofNat.inj right, decoded⟩

end Fakemote
