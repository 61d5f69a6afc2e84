import Fakemote.Wiimote
import Mathlib.Logic.Function.Basic

/-! `button_map.c` and `button_map.h`: from the state of a game controller to Wiimote buttons,
extension data and IR dots. -/

namespace Fakemote

def intToU16 (x : Int) : UInt16 := UInt16.ofNat (x % 65536).toNat

def intToU8 (x : Int) : UInt8 := UInt8.ofNat (x % 256).toNat

/-- `value >> 8` is an arithmetic shift. -/
def s16ToU8 (value : Int16) : UInt8 := intToU8 (0x80 + value.toInt / 256)

inductive BmIrEmulationMode
  | none
  | direct
  | relativeAnalogAxis
  | absoluteAnalogAxis
  deriving DecidableEq, Repr

def bmNunchukAnalogAxisX : UInt8 := 1
def bmNunchukAnalogAxisY : UInt8 := 2
def bmClassicAnalogAxisLeftX : UInt8 := 1
def bmClassicAnalogAxisLeftY : UInt8 := 2
def bmClassicAnalogAxisRightX : UInt8 := 3
def bmClassicAnalogAxisRightY : UInt8 := 4
def bmIrAxisX : UInt8 := 1
def bmIrAxisY : UInt8 := 2

structure BmIrEmulationState where
  positionX : UInt16
  positionY : UInt16
  deriving DecidableEq, Repr

/-- The loop that the three button mappings share: bit `i` of `buttons` selects `map i`. -/
def mapButtons {α : Type} [OrOp α] (map : Nat → α) : (count index : Nat) → UInt32 → α → α
  | 0, _, _, mapped => mapped
  | count + 1, index, buttons, mapped =>
      mapButtons map count (index + 1) (buttons >>> 1)
        (if buttons &&& (1 : UInt32) ≠ 0 then mapped ||| map index else mapped)

/-- The loop of the axis mappings: axis `i` goes to entry `map i`, counted from one. -/
def mapAxes (map : Nat → UInt8) (axes : Nat → Int16) :
    (count index : Nat) → (Nat → UInt8) → Nat → UInt8
  | 0, _, mapped => mapped
  | count + 1, index, mapped =>
      mapAxes map axes count (index + 1)
        (if map index ≠ 0 then
          Function.update mapped ((map index).toNat - 1) (s16ToU8 (axes index))
        else mapped)

def bmMapWiimote (numButtons : Nat) (buttons : UInt32) (wiimoteButtonMap : Nat → UInt16)
    (wiimoteButtons : UInt16) : UInt16 :=
  mapButtons wiimoteButtonMap numButtons 0 buttons wiimoteButtons

/-- The six bytes of the Nunchuk format; bit fields are allocated from the top. -/
def bmNunchukFormat (buttons : UInt8) (analogAxis : Nat → UInt8) (ax ay az : UInt16) :
    List UInt8 :=
  let low2 (x : UInt16) : UInt8 := (x &&& (3 : UInt16)).toUInt8
  let c : UInt8 := if buttons &&& nunchukButtonC = 0 then 1 else 0
  let z : UInt8 := if buttons &&& nunchukButtonZ = 0 then 1 else 0
  [analogAxis 0, analogAxis 1,
   (ax >>> (2 : UInt16)).toUInt8, (ay >>> (2 : UInt16)).toUInt8, (az >>> (2 : UInt16)).toUInt8,
   (low2 az <<< (6 : UInt8)) ||| (low2 ay <<< (4 : UInt8)) ||| (low2 ax <<< (2 : UInt8)) |||
     (c <<< (1 : UInt8)) ||| z]

def bmMapNunchuk (numButtons : Nat) (buttons : UInt32) (numAnalogAxis : Nat)
    (analogAxis : Nat → Int16) (ax ay az : UInt16) (nunchukButtonMap : Nat → UInt8)
    (nunchukAnalogAxisMap : Nat → UInt8) : List UInt8 :=
  bmNunchukFormat (mapButtons nunchukButtonMap numButtons 0 buttons 0)
    (mapAxes nunchukAnalogAxisMap analogAxis numAnalogAxis 0 fun _ => 0) ax ay az

def bmClassicFormat (buttons : UInt16) (analogAxis : Nat → UInt8) : List UInt8 :=
  let lx := analogAxis 0 >>> (2 : UInt8)
  let ly := analogAxis 1 >>> (2 : UInt8)
  let rx := analogAxis 2 >>> (3 : UInt8)
  let ry := analogAxis 3 >>> (3 : UInt8)
  let lt : UInt8 := if buttons &&& classicCtrlButtonFullL ≠ 0 then 31 else 0
  let rt : UInt8 := if buttons &&& classicCtrlButtonFullR ≠ 0 then 31 else 0
  let rx3 := (rx >>> (3 : UInt8)) &&& (3 : UInt8)
  let rx2 := (rx >>> (1 : UInt8)) &&& (3 : UInt8)
  let rx1 := rx &&& (1 : UInt8)
  let lt2 := (lt >>> (3 : UInt8)) &&& (3 : UInt8)
  let lt1 := lt &&& (7 : UInt8)
  [(rx3 <<< (6 : UInt8)) ||| (lx &&& (0x3F : UInt8)),
   (rx2 <<< (6 : UInt8)) ||| (ly &&& (0x3F : UInt8)),
   (rx1 <<< (7 : UInt8)) ||| (lt2 <<< (5 : UInt8)) ||| (ry &&& (0x1F : UInt8)),
   (lt1 <<< (5 : UInt8)) ||| (rt &&& (0x1F : UInt8))] ++
    Bytes.bytes16 (~~~buttons &&& classicCtrlButtonAll)

def bmMapClassic (numButtons : Nat) (buttons : UInt32) (numAnalogAxis : Nat)
    (analogAxis : Nat → Int16) (classicButtonMap : Nat → UInt16)
    (classicAnalogAxisMap : Nat → UInt8) : List UInt8 :=
  bmClassicFormat (mapButtons classicButtonMap numButtons 0 buttons 0)
    (mapAxes classicAnalogAxisMap analogAxis numAnalogAxis 0 fun _ => 0)

def bmIrDotsSetOutOfScreen (irDots : List IrDot) : List IrDot :=
  irDots.map fun dot => { dot with y := 1023 }

/-- Only the first two dots are written. -/
def mapIrDot (sensorBarPositionTop : Bool) (dot : IrDot) (irDots : List IrDot) : List IrDot :=
  let vertOffset := if sensorBarPositionTop then irVerticalOffset else -irVerticalOffset
  let mirrored := irDotCenterMinX + (irDotCenterMaxX - dot.x.toNat)
  let y := intToU16 (dot.y.toNat + vertOffset)
  ⟨intToU16 (mirrored - irHorizontalOffset), y⟩ ::
    ⟨intToU16 (mirrored + irHorizontalOffset), y⟩ :: irDots.drop 2

def bmMapIrDirect (sensorBarPositionTop : Bool) (touchRes : Int) (x y : Int16)
    (irDots : List IrDot) : List IrDot :=
  if x.toInt < 0 then bmIrDotsSetOutOfScreen irDots
  else
    mapIrDot sensorBarPositionTop
      ⟨intToU16 (irDotCenterMinX +
          (x.toInt * (irDotCenterMaxX - irDotCenterMinX)).tdiv touchRes),
       intToU16 (irDotCenterMinY +
          (y.toInt * (irDotCenterMaxY - irDotCenterMinY)).tdiv touchRes)⟩ irDots

/-- One round of the axis loop; the positions are `u16`. -/
def bmIrMoveAxis (mode : BmIrEmulationMode) (axis : UInt8) (val : Int16)
    (state : BmIrEmulationState) : BmIrEmulationState :=
  let moved (position : UInt16) : UInt16 :=
    match mode with
    | .relativeAnalogAxis => intToU16 (position.toNat + val.toInt.tdiv 16)
    | .absoluteAnalogAxis =>
        let center := if axis = bmIrAxisX then irCenterX else irCenterY
        intToU16 (center + val.toInt)
    | _ => position
  if axis = bmIrAxisX then { state with positionX := moved state.positionX }
  else if axis = bmIrAxisY then { state with positionY := moved state.positionY }
  else state

def bmIrMoveAxes (mode : BmIrEmulationMode) (map : Nat → UInt8) (axes : Nat → Int16) :
    (count index : Nat) → BmIrEmulationState → BmIrEmulationState
  | 0, _, state => state
  | count + 1, index, state =>
      bmIrMoveAxes mode map axes count (index + 1)
        (bmIrMoveAxis mode (map index) (axes index) state)

def bmIrClamp (low high : Int) (position : UInt16) : UInt16 :=
  if (position.toNat : Int) < low then intToU16 low
  else if (position.toNat : Int) > high then intToU16 high
  else position

def bmMapIrAnalogAxis (sensorBarPositionTop : Bool) (mode : BmIrEmulationMode)
    (state : BmIrEmulationState) (numAnalogAxis : Nat) (analogAxis : Nat → Int16)
    (irAnalogAxisMap : Nat → UInt8) (irDots : List IrDot) : BmIrEmulationState × List IrDot :=
  let state := bmIrMoveAxes mode irAnalogAxisMap analogAxis numAnalogAxis 0 state
  let state : BmIrEmulationState :=
    ⟨bmIrClamp irDotCenterMinX irDotCenterMaxX state.positionX,
     bmIrClamp irDotCenterMinY irDotCenterMaxY state.positionY⟩
  let y := irDotCenterMinY + (irDotCenterMaxY - state.positionY.toNat)
  (state, mapIrDot sensorBarPositionTop ⟨state.positionX, intToU16 y⟩ irDots)

/-- Returns whether the combo has just been pressed, and the new value of the flag. -/
def bmCheckSwitchMapping (buttons : UInt32) (switchMapping : Bool)
    (switchMappingCombo : UInt32) : Bool × Bool :=
  let switchPressed := decide (buttons &&& switchMappingCombo = switchMappingCombo)
  (switchPressed && !switchMapping, switchPressed)

def bmIrEmulationStateReset : BmIrEmulationState := ⟨intToU16 irCenterX, intToU16 irCenterY⟩

end Fakemote
