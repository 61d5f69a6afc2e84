import Fakemote.ButtonMap
import Mathlib.Data.List.Forall2

/-! The pointer of `bm_map_ir_analog_axis` in exact arithmetic. The positions are `u16`, and the
clamp comes after the addition. -/

namespace Fakemote

inductive BmIrAxis
  | x
  | y
  deriving DecidableEq, Repr

namespace BmIrAxis

def code : BmIrAxis → UInt8
  | x => bmIrAxisX
  | y => bmIrAxisY

def center : BmIrAxis → Int
  | x => irCenterX
  | y => irCenterY

def low : BmIrAxis → Int
  | x => irDotCenterMinX
  | y => irDotCenterMinY

def high : BmIrAxis → Int
  | x => irDotCenterMaxX
  | y => irDotCenterMaxY

end BmIrAxis

namespace BmIrEmulationState

def position (state : BmIrEmulationState) : BmIrAxis → UInt16
  | .x => state.positionX
  | .y => state.positionY

def InRange (state : BmIrEmulationState) : Prop :=
  ∀ axis : BmIrAxis, axis.low ≤ (state.position axis).toNat ∧
    ((state.position axis).toNat : Int) ≤ axis.high

end BmIrEmulationState

structure PointerUpdate where
  sensorBarPositionTop : Bool
  mode : BmIrEmulationMode
  numAnalogAxis : Nat
  analogAxis : Nat → Int16
  irAnalogAxisMap : Nat → UInt8
  irDots : List IrDot

/-- The sum of `val / 16` over the analog axes that move this axis. -/
def stickSum (map : Nat → UInt8) (axes : Nat → Int16) (axis : BmIrAxis) :
    (count index : Nat) → Int
  | 0, _ => 0
  | count + 1, index =>
      (if map index = axis.code then (axes index).toInt.tdiv 16 else 0) +
        stickSum map axes axis count (index + 1)

def lastStick (map : Nat → UInt8) (axes : Nat → Int16) (axis : BmIrAxis) :
    (count index : Nat) → Option Int16
  | 0, _ => none
  | count + 1, index =>
      (lastStick map axes axis count (index + 1)).or
        (if map index = axis.code then some (axes index) else none)

namespace PointerUpdate

def apply (update : PointerUpdate) (state : BmIrEmulationState) : BmIrEmulationState :=
  (bmMapIrAnalogAxis update.sensorBarPositionTop update.mode state update.numAnalogAxis
    update.analogAxis update.irAnalogAxisMap update.irDots).1

/-- Where the stick points: `position + val / 16`, or `center + val`. -/
def target (update : PointerUpdate) (axis : BmIrAxis) (position : Int) : Int :=
  match update.mode with
  | .relativeAnalogAxis => position +
      stickSum update.irAnalogAxisMap update.analogAxis axis update.numAnalogAxis 0
  | .absoluteAnalogAxis =>
      match lastStick update.irAnalogAxisMap update.analogAxis axis update.numAnalogAxis 0 with
      | some val => axis.center + val.toInt
      | none => position
  | _ => position

end PointerUpdate

def clampTo (low high value : Int) : Int := max low (min high value)

/-- The update ends where the stick points, or at the edge on that side. -/
def PointerUpdate.Saturates (update : PointerUpdate) (state : BmIrEmulationState) : Prop :=
  ∀ axis : BmIrAxis, (((update.apply state).position axis).toNat : Int) =
    clampTo axis.low axis.high (update.target axis (state.position axis).toNat)

/-- Where the stick points fits in `u16`, or wraps to where the clamp ends at the same edge. -/
def PointerUpdate.KeepsSide (update : PointerUpdate) (state : BmIrEmulationState) : Prop :=
  ∀ axis : BmIrAxis, let target := update.target axis (state.position axis).toNat
    (target < 0 → target % 65536 ≤ axis.low) ∧ (65536 ≤ target → axis.high ≤ target % 65536)

theorem intToU16_toNat (value : Int) : ((intToU16 value).toNat : Int) = value % 65536 := by
  have least : 0 ≤ value % 65536 := Int.emod_nonneg _ (by decide)
  have most : value % 65536 < 65536 := Int.emod_lt_of_pos _ (by decide)
  unfold intToU16
  rw [UInt16.toNat_ofNat_of_lt' (show (value % 65536).toNat < 65536 by omega)]
  exact Int.toNat_of_nonneg least

theorem intToU16_congr {first second : Int} (same : first % 65536 = second % 65536) :
    intToU16 first = intToU16 second := by
  unfold intToU16
  rw [same]

theorem intToU16_self (word : UInt16) : intToU16 word.toNat = word := by
  have bound := word.toNat_lt
  apply UInt16.toNat_inj.mp
  have value := intToU16_toNat word.toNat
  omega

theorem bmIrMoveAxis_position (mode : BmIrEmulationMode) (moved : UInt8) (val : Int16)
    (state : BmIrEmulationState) (axis : BmIrAxis) :
    (bmIrMoveAxis mode moved val state).position axis =
      if moved = axis.code then
        match mode with
        | .relativeAnalogAxis => intToU16 ((state.position axis).toNat + val.toInt.tdiv 16)
        | .absoluteAnalogAxis => intToU16 (axis.center + val.toInt)
        | _ => state.position axis
      else state.position axis := by
  unfold bmIrMoveAxis
  dsimp only
  cases axis with
  | x =>
      by_cases first : moved = bmIrAxisX
      · rw [if_pos first, if_pos (show moved = BmIrAxis.x.code from first)]
        cases mode with
        | absoluteAnalogAxis => simp only [first, if_true]; rfl
        | _ => rfl
      · rw [if_neg first, if_neg (show ¬ moved = BmIrAxis.x.code from first)]
        by_cases second : moved = bmIrAxisY
        · rw [if_pos second]
          rfl
        · rw [if_neg second]
  | y =>
      by_cases second : moved = bmIrAxisY
      · have other : ¬ moved = bmIrAxisX := by
          rw [second]
          decide
        rw [if_neg other, if_pos second, if_pos (show moved = BmIrAxis.y.code from second)]
        cases mode with
        | absoluteAnalogAxis => simp only [if_neg other]; rfl
        | _ => rfl
      · rw [if_neg (show ¬ moved = BmIrAxis.y.code from second)]
        by_cases first : moved = bmIrAxisX
        · rw [if_pos first]
          rfl
        · rw [if_neg first, if_neg second]

theorem relative_position (map : Nat → UInt8) (axes : Nat → Int16) (axis : BmIrAxis)
    (count : Nat) : ∀ (index : Nat) (state : BmIrEmulationState),
    (bmIrMoveAxes .relativeAnalogAxis map axes count index state).position axis =
      intToU16 ((state.position axis).toNat + stickSum map axes axis count index) := by
  induction count with
  | zero =>
      intro index state
      rw [stickSum, Int.add_zero, intToU16_self]
      rfl
  | succ count ih =>
      intro index state
      rw [bmIrMoveAxes, ih, bmIrMoveAxis_position, stickSum]
      split
      · apply intToU16_congr
        have value := intToU16_toNat ((state.position axis).toNat + (axes index).toInt.tdiv 16)
        dsimp only
        omega
      · rw [Int.zero_add]

theorem absolute_position (map : Nat → UInt8) (axes : Nat → Int16) (axis : BmIrAxis)
    (count : Nat) : ∀ (index : Nat) (state : BmIrEmulationState),
    (bmIrMoveAxes .absoluteAnalogAxis map axes count index state).position axis =
      match lastStick map axes axis count index with
      | some val => intToU16 (axis.center + val.toInt)
      | none => state.position axis := by
  induction count with
  | zero =>
      intro index state
      rfl
  | succ count ih =>
      intro index state
      rw [bmIrMoveAxes, ih, lastStick]
      cases later : lastStick map axes axis count (index + 1) with
      | some val => rfl
      | none =>
          dsimp only
          rw [bmIrMoveAxis_position, Option.none_or]
          split
          · rfl
          · rfl

theorem idle_position {mode : BmIrEmulationMode} (relative : mode ≠ .relativeAnalogAxis)
    (absolute : mode ≠ .absoluteAnalogAxis) (map : Nat → UInt8) (axes : Nat → Int16)
    (axis : BmIrAxis) (count : Nat) : ∀ (index : Nat) (state : BmIrEmulationState),
    (bmIrMoveAxes mode map axes count index state).position axis = state.position axis := by
  induction count with
  | zero =>
      intro index state
      rfl
  | succ count ih =>
      intro index state
      rw [bmIrMoveAxes, ih, bmIrMoveAxis_position]
      split
      · cases mode with
        | relativeAnalogAxis => exact absurd rfl relative
        | absoluteAnalogAxis => exact absurd rfl absolute
        | _ => rfl
      · rfl

/-- An update clamps the low 16 bits of where the stick points. -/
theorem PointerUpdate.apply_position (update : PointerUpdate) (state : BmIrEmulationState)
    (axis : BmIrAxis) : (update.apply state).position axis =
      bmIrClamp axis.low axis.high
        (intToU16 (update.target axis (state.position axis).toNat)) := by
  have clamped : (update.apply state).position axis = bmIrClamp axis.low axis.high
      ((bmIrMoveAxes update.mode update.irAnalogAxisMap update.analogAxis update.numAnalogAxis 0
        state).position axis) := by
    unfold PointerUpdate.apply bmMapIrAnalogAxis
    cases axis with
    | x => simp only [BmIrEmulationState.position, BmIrAxis.low, BmIrAxis.high]
    | y => simp only [BmIrEmulationState.position, BmIrAxis.low, BmIrAxis.high]
  rw [clamped]
  refine congrArg (bmIrClamp axis.low axis.high) ?_
  unfold PointerUpdate.target
  cases mode : update.mode with
  | relativeAnalogAxis => exact relative_position _ _ _ _ _ _
  | absoluteAnalogAxis =>
      rw [absolute_position]
      cases lastStick update.irAnalogAxisMap update.analogAxis axis update.numAnalogAxis 0 with
      | some val => rfl
      | none => exact (intToU16_self _).symm
  | none => rw [idle_position (by decide) (by decide), intToU16_self]
  | direct => rw [idle_position (by decide) (by decide), intToU16_self]

theorem bmIrClamp_toNat {low high : Int} (least : 0 ≤ low) (ordered : low ≤ high)
    (most : high < 65536) (word : UInt16) :
    ((bmIrClamp low high word).toNat : Int) = clampTo low high word.toNat := by
  have lowest := intToU16_toNat low
  have highest := intToU16_toNat high
  rw [Int.emod_eq_of_lt least (by omega)] at lowest
  rw [Int.emod_eq_of_lt (by omega) most] at highest
  unfold bmIrClamp clampTo
  split
  · omega
  · split
    · omega
    · omega

theorem clampTo_mem {low high : Int} (ordered : low ≤ high) (value : Int) :
    low ≤ clampTo low high value ∧ clampTo low high value ≤ high := by
  unfold clampTo
  omega

theorem clampTo_mono (low high : Int) {first second : Int} (le : first ≤ second) :
    clampTo low high first ≤ clampTo low high second := by
  unfold clampTo
  omega

/-- Clamping the low 16 bits is clamping the value exactly when it wraps to the same side. -/
theorem clampTo_wrapped_iff {low high : Int} (least : 0 ≤ low) (ordered : low < high)
    (most : high < 65536) (value : Int) :
    clampTo low high (value % 65536) = clampTo low high value ↔
      (value < 0 → value % 65536 ≤ low) ∧ (65536 ≤ value → high ≤ value % 65536) := by
  unfold clampTo
  constructor
  · intro same
    refine ⟨fun negative => ?_, fun large => ?_⟩
    · omega
    · omega
  · rintro ⟨negative, large⟩
    by_cases below : value < 0
    · have wrapped := negative below
      omega
    · by_cases above : 65536 ≤ value
      · have wrapped := large above
        omega
      · have inside : value % 65536 = value := by omega
        rw [inside]

theorem BmIrAxis.range (axis : BmIrAxis) :
    0 ≤ axis.low ∧ axis.low < axis.high ∧ axis.high < 65536 := by
  cases axis with
  | x => decide
  | y => decide

theorem PointerUpdate.apply_toNat (update : PointerUpdate) (state : BmIrEmulationState)
    (axis : BmIrAxis) : (((update.apply state).position axis).toNat : Int) =
      clampTo axis.low axis.high
        (update.target axis (state.position axis).toNat % 65536) := by
  obtain ⟨least, ordered, most⟩ := axis.range
  rw [update.apply_position, bmIrClamp_toNat least (Int.le_of_lt ordered) most, intToU16_toNat]

theorem PointerUpdate.saturates_iff (update : PointerUpdate) (state : BmIrEmulationState) :
    update.Saturates state ↔ update.KeepsSide state := by
  refine forall_congr' fun axis => ?_
  obtain ⟨least, ordered, most⟩ := axis.range
  rw [update.apply_toNat]
  exact clampTo_wrapped_iff least ordered most _

theorem PointerUpdate.apply_inRange (update : PointerUpdate) (state : BmIrEmulationState) :
    (update.apply state).InRange := by
  intro axis
  rw [update.apply_toNat]
  exact clampTo_mem (Int.le_of_lt axis.range.2.1) _

theorem stick_tdiv (val : Int16) : -2048 ≤ val.toInt.tdiv 16 ∧ val.toInt.tdiv 16 ≤ 2047 := by
  have least : (-32768 : Int).tdiv 16 ≤ val.toInt.tdiv 16 :=
    Int.tdiv_le_tdiv (by decide) val.le_toInt
  have most : val.toInt.tdiv 16 ≤ (32767 : Int).tdiv 16 :=
    Int.tdiv_le_tdiv (by decide) (Int.le_of_lt_add_one val.toInt_lt)
  exact ⟨least, most⟩

theorem stickSum_bounds (map : Nat → UInt8) (axes : Nat → Int16) (axis : BmIrAxis) (count : Nat) :
    ∀ index, -2048 * (count : Int) ≤ stickSum map axes axis count index ∧
      stickSum map axes axis count index ≤ 2047 * (count : Int) := by
  induction count with
  | zero =>
      intro index
      exact ⟨Int.le_refl 0, Int.le_refl 0⟩
  | succ count ih =>
      intro index
      have one := stick_tdiv (axes index)
      have rest := ih (index + 1)
      rw [stickSum]
      split
      · omega
      · omega

theorem BmIrAxis.center_mem (axis : BmIrAxis) :
    axis.low ≤ axis.center ∧ axis.center ≤ axis.high ∧ axis.high ≤ 832 := by
  cases axis with
  | x => decide
  | y => decide

theorem PointerUpdate.target_bounds {update : PointerUpdate} (few : update.numAnalogAxis ≤ 31)
    {axis : BmIrAxis} {position : Int} (least : axis.low ≤ position) (most : position ≤ axis.high) :
    axis.low - 63488 ≤ update.target axis position ∧ update.target axis position < 65536 := by
  have edges := axis.center_mem
  unfold PointerUpdate.target
  cases update.mode with
  | relativeAnalogAxis =>
      have bounds := stickSum_bounds update.irAnalogAxisMap update.analogAxis axis
        update.numAnalogAxis 0
      dsimp only
      omega
  | absoluteAnalogAxis =>
      dsimp only
      cases lastStick update.irAnalogAxisMap update.analogAxis axis update.numAnalogAxis 0 with
      | some val =>
          have lowest := val.le_toInt
          have highest := val.toInt_lt
          dsimp only
          omega
      | none =>
          dsimp only
          omega
  | none =>
      dsimp only
      omega
  | direct =>
      dsimp only
      omega

/-- With at most 31 analog axes, the condition is that the stick points to no negative place. -/
theorem PointerUpdate.keepsSide_iff {update : PointerUpdate} {state : BmIrEmulationState}
    (few : update.numAnalogAxis ≤ 31) (inRange : state.InRange) :
    update.KeepsSide state ↔ ∀ axis, 0 ≤ update.target axis (state.position axis).toNat := by
  refine forall_congr' fun axis => ?_
  have bounds := PointerUpdate.target_bounds few (inRange axis).1 (inRange axis).2
  dsimp only
  constructor
  · rintro ⟨negative, -⟩
    by_cases below : update.target axis (state.position axis).toNat < 0
    · have wrapped := negative below
      omega
    · omega
  · intro positive
    exact ⟨fun below => absurd positive (Int.not_le.mpr below), fun above => by omega⟩

structure PushedFurther (axis : BmIrAxis) (first second : PointerUpdate) : Prop where
  mode : second.mode = first.mode
  count : second.numAnalogAxis = first.numAnalogAxis
  map : second.irAnalogAxisMap = first.irAnalogAxisMap
  further : ∀ i, first.irAnalogAxisMap i = axis.code →
    (first.analogAxis i).toInt ≤ (second.analogAxis i).toInt

theorem stickSum_mono {map : Nat → UInt8} {first second : Nat → Int16} {axis : BmIrAxis}
    (further : ∀ i, map i = axis.code → (first i).toInt ≤ (second i).toInt) (count : Nat) :
    ∀ index, stickSum map first axis count index ≤ stickSum map second axis count index := by
  induction count with
  | zero =>
      intro index
      exact Int.le_refl 0
  | succ count ih =>
      intro index
      have rest := ih (index + 1)
      rw [stickSum, stickSum]
      split
      · rename_i moved
        have one := Int.tdiv_le_tdiv (by decide : (0 : Int) < 16) (further index moved)
        omega
      · omega

theorem lastStick_mono {map : Nat → UInt8} {first second : Nat → Int16} {axis : BmIrAxis}
    (further : ∀ i, map i = axis.code → (first i).toInt ≤ (second i).toInt) (count : Nat) :
    ∀ index, (lastStick map first axis count index = none ∧
        lastStick map second axis count index = none) ∨
      ∃ one two, lastStick map first axis count index = some one ∧
        lastStick map second axis count index = some two ∧ one.toInt ≤ two.toInt := by
  induction count with
  | zero =>
      intro index
      exact Or.inl ⟨rfl, rfl⟩
  | succ count ih =>
      intro index
      rw [lastStick, lastStick]
      rcases ih (index + 1) with ⟨none1, none2⟩ | ⟨one, two, some1, some2, le⟩
      · rw [none1, none2, Option.none_or, Option.none_or]
        by_cases moved : map index = axis.code
        · rw [if_pos moved, if_pos moved]
          exact Or.inr ⟨_, _, rfl, rfl, further index moved⟩
        · rw [if_neg moved, if_neg moved]
          exact Or.inl ⟨rfl, rfl⟩
      · rw [some1, some2]
        exact Or.inr ⟨one, two, rfl, rfl, le⟩

theorem target_mono {axis : BmIrAxis} {first second : PointerUpdate}
    (pushed : PushedFurther axis first second) {low high : Int} (le : low ≤ high) :
    first.target axis low ≤ second.target axis high := by
  unfold PointerUpdate.target
  rw [pushed.mode, pushed.count, pushed.map]
  cases first.mode with
  | relativeAnalogAxis =>
      have sum := stickSum_mono pushed.further first.numAnalogAxis 0
      dsimp only
      omega
  | absoluteAnalogAxis =>
      dsimp only
      rcases lastStick_mono pushed.further first.numAnalogAxis 0 with
        ⟨none1, none2⟩ | ⟨one, two, some1, some2, further⟩
      · rw [none1, none2]
        exact le
      · rw [some1, some2]
        dsimp only
        omega
  | none => exact le
  | direct => exact le

def afterUpdates : List PointerUpdate → BmIrEmulationState → BmIrEmulationState
  | [], state => state
  | update :: rest, state => afterUpdates rest (update.apply state)

def AtEach (P : PointerUpdate → BmIrEmulationState → Prop) :
    List PointerUpdate → BmIrEmulationState → Prop
  | [], _ => True
  | update :: rest, state => P update state ∧ AtEach P rest (update.apply state)

theorem atEach_congr {P Q : PointerUpdate → BmIrEmulationState → Prop}
    {updates : List PointerUpdate} : ∀ {state : BmIrEmulationState}, state.InRange →
      (∀ update ∈ updates, ∀ state : BmIrEmulationState, state.InRange →
        (P update state ↔ Q update state)) →
      (AtEach P updates state ↔ AtEach Q updates state) := by
  induction updates with
  | nil =>
      intro state _ _
      exact Iff.rfl
  | cons update rest ih =>
      intro state inRange same
      have later := ih (update.apply_inRange state) fun other listed =>
        same other (List.mem_cons_of_mem update listed)
      exact and_congr (same update List.mem_cons_self state inRange) later

theorem afterUpdates_inRange (updates : List PointerUpdate) :
    ∀ {state : BmIrEmulationState}, state.InRange → (afterUpdates updates state).InRange := by
  induction updates with
  | nil =>
      intro state inRange
      exact inRange
  | cons update rest ih =>
      intro state _
      rw [afterUpdates]
      exact ih (update.apply_inRange state)

theorem afterUpdates_mono {axis : BmIrAxis} {updates further : List PointerUpdate}
    (pushed : List.Forall₂ (PushedFurther axis) updates further) :
    ∀ {low high : BmIrEmulationState}, (low.position axis).toNat ≤ (high.position axis).toNat →
      AtEach PointerUpdate.KeepsSide updates low → AtEach PointerUpdate.KeepsSide further high →
      ((afterUpdates updates low).position axis).toNat ≤
        ((afterUpdates further high).position axis).toNat := by
  induction pushed with
  | nil =>
      intro low high le _ _
      exact le
  | @cons first second _ _ head _ ih =>
      intro low high le lows highs
      have one := (first.saturates_iff low).mpr lows.1 axis
      have two := (second.saturates_iff high).mpr highs.1 axis
      have targets := target_mono head (Int.ofNat_le.mpr le)
      have ordered := clampTo_mono axis.low axis.high targets
      rw [← one, ← two] at ordered
      rw [afterUpdates, afterUpdates]
      exact ih (Int.ofNat_le.mp ordered) lows.2 highs.2

/-- The pointer saturates at the edges exactly when no update wraps to the other side; then pushing
the sticks further moves it no less far. It never leaves the calibrated range. -/
theorem pointer_saturates_iff {state : BmIrEmulationState} (inRange : state.InRange)
    (updates : List PointerUpdate) :
    (AtEach PointerUpdate.Saturates updates state ↔
      AtEach PointerUpdate.KeepsSide updates state) ∧
    (afterUpdates updates state).InRange ∧
    (∀ axis further, List.Forall₂ (PushedFurther axis) updates further →
      AtEach PointerUpdate.KeepsSide updates state →
      AtEach PointerUpdate.KeepsSide further state →
      ((afterUpdates updates state).position axis).toNat ≤
        ((afterUpdates further state).position axis).toNat) ∧
    ((∀ update ∈ updates, update.numAnalogAxis ≤ 31) →
      (AtEach PointerUpdate.KeepsSide updates state ↔ AtEach (fun update state =>
        ∀ axis, 0 ≤ update.target axis (state.position axis).toNat) updates state)) := by
  refine ⟨atEach_congr inRange fun update _ state _ => update.saturates_iff state,
    afterUpdates_inRange updates inRange, ?_, ?_⟩
  · intro axis further pushed one two
    exact afterUpdates_mono pushed (Nat.le_refl _) one two
  · intro few
    exact atEach_congr inRange fun update listed state stays =>
      PointerUpdate.keepsSide_iff (few update listed) stays

def rightStick (mode : BmIrEmulationMode) (x y : Int16) : PointerUpdate where
  sensorBarPositionTop := false
  mode := mode
  numAnalogAxis := 2
  analogAxis := fun i => if i = 0 then x else y
  irAnalogAxisMap := fun i => if i = 0 then bmIrAxisX else bmIrAxisY
  irDots := []

theorem bmIrEmulationStateReset_inRange : bmIrEmulationStateReset.InRange := by
  intro axis
  cases axis with
  | x => decide
  | y => decide

/-- From the centre, up to the edge in steps of 128. -/
theorem pointer_saturates_iff_upwards :
    bmIrEmulationStateReset.InRange ∧ AtEach PointerUpdate.Saturates
      [rightStick .relativeAnalogAxis 0 2048, rightStick .relativeAnalogAxis 0 2048]
      bmIrEmulationStateReset := by
  refine ⟨bmIrEmulationStateReset_inRange,
    (pointer_saturates_iff bmIrEmulationStateReset_inRange _).1.mpr ⟨?_, ?_, trivial⟩⟩
  · intro axis
    cases axis with
    | x => decide
    | y => decide
  · intro axis
    cases axis with
    | x => decide +kernel
    | y => decide +kernel

/-- The stick is pushed fully to the left, and the pointer jumps to the right edge. -/
theorem left_push_moves_right :
    bmIrEmulationStateReset.InRange ∧
    ¬ (rightStick .relativeAnalogAxis (-32768) 0).Saturates bmIrEmulationStateReset ∧
    (((rightStick .relativeAnalogAxis (-32768) 0).apply bmIrEmulationStateReset).position
      .x).toNat = 832 ∧
    (((rightStick .relativeAnalogAxis (-4096) 0).apply bmIrEmulationStateReset).position
      .x).toNat = 255 := by
  refine ⟨bmIrEmulationStateReset_inRange, ?_, by decide +kernel, by decide +kernel⟩
  intro saturates
  exact absurd (saturates .x) (by decide +kernel)

end Fakemote
