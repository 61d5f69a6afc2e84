import Fakemote.UninitialisedHandlers

/-! The module on different uninitialised memory: whole runs, one part of an input after the
other. -/

namespace Fakemote

open Bytes Program

/-- A packet of the host is handled in one part, a timer in one for each controller event and for
each thing that it does after these. -/
inductive Part
  | hciCommand (data : List UInt8)
  | aclOut (data : List UInt8)
  | bufferRequest (ep : EndpointId) (msg : IpcMessage)
  | handDownReply (ep : EndpointId) (retval : Int) (written : List UInt8)
  | egcEvent (event : EgcEvent)
  | tickSlots
  | assign
  | tick (w : WiimoteId)
  | completedPackets

def handlePart : Part → M Unit
  | .hciCommand data => do
      let _ ← hciStateHandleHciCmdFromHost data
  | .aclOut data => do
      let _ ← hciStateHandleAclDataOutRequestFromHost data
  | .bufferRequest ep msg => handleBufferRequest ep msg
  | .handDownReply ep retval written => oh1ResourceReply ep retval written
  | .egcEvent event => handleEgcEvent event
  | .tickSlots => inputDevicesTick
  | .assign => do
      let s ← get
      when (hciCanRequestConnection s.core.hci) fakeWiimoteMgrCheckAssignInputDevices
  | .tick w => tickActive w
  | .completedPackets => fakeWiimoteMgrSendEventNumberOfCompletedPackets

def partStep (s : World) (part : Part) : Except Fault World := after (handlePart part) s

def Input.parts : Input → List Part
  | .hciCommand data => [.hciCommand data]
  | .aclOut data => [.aclOut data]
  | .bufferRequest ep msg => [.bufferRequest ep msg]
  | .handDownReply ep retval written => [.handDownReply ep retval written]
  | .timer events =>
      events.map .egcEvent ++ [.tickSlots, .assign, .tick 0, .tick 1, .completedPackets]

theorem runAll_single (s : World) (part : Part) : runAll partStep s [part] = partStep s part := by
  unfold runAll
  cases partStep s part with
  | error fault => rfl
  | ok t => rfl

theorem egcHandleEvents_parts (events : List EgcEvent) :
    ∀ s, after (egcHandleEvents events) s = runAll partStep s (events.map .egcEvent) := by
  induction events with
  | nil => exact fun _ => rfl
  | cons event events ih =>
      intro s
      unfold egcHandleEvents
      rw [after_bind, List.map_cons, runAll]
      exact congrArg _ (funext ih)

theorem tickDevices_parts (s : World) :
    after fakeWiimoteMgrTickDevices s =
      runAll partStep s [.assign, .tick 0, .tick 1, .completedPackets] := by
  have assigned : after fakeWiimoteMgrTickDevices s = after (handlePart .assign >>= fun _ => do
      tickActive 0
      tickActive 1
      fakeWiimoteMgrSendEventNumberOfCompletedPackets) s := rfl
  rw [assigned, after_bind, runAll]
  apply congrArg
  funext t
  rw [after_bind, runAll]
  apply congrArg
  funext u
  rw [after_bind, runAll]
  apply congrArg
  funext v
  exact (runAll_single v .completedPackets).symm

theorem step_after (s : World) (input : Input) : step s input = after (handleInput input) s := by
  unfold step after
  cases handleInput input s with
  | error fault => rfl
  | ok result => rfl

theorem step_parts (s : World) (input : Input) :
    step s input = runAll partStep s input.parts := by
  rw [step_after]
  cases input with
  | hciCommand data => exact (runAll_single s (.hciCommand data)).symm
  | aclOut data => exact (runAll_single s (.aclOut data)).symm
  | bufferRequest ep msg => exact (runAll_single s (.bufferRequest ep msg)).symm
  | handDownReply ep retval written =>
      exact (runAll_single s (.handDownReply ep retval written)).symm
  | timer events =>
      unfold handleInput periodicTimer Input.parts
      rw [after_bind, egcHandleEvents_parts, runAll_append]
      apply congrArg
      funext t
      rw [after_bind, runAll]
      exact congrArg _ (funext tickDevices_parts)

theorem runAll_parts (inputs : List Input) :
    ∀ s, runAll step s inputs = runAll partStep s (inputs.flatMap Input.parts) := by
  induction inputs with
  | nil => exact fun _ => rfl
  | cons input inputs ih =>
      intro s
      rw [List.flatMap_cons, runAll_append, ← step_parts, runAll]
      exact congrArg _ (funext ih)

/-- Where uninitialised memory may show up covers where the part puts some. -/
def Part.Keeps (leaks : Leaks) (s : World) : Part → Prop
  | .hciCommand data => AsksName s.core data → leaks.names = true
  | .aclOut data => s.AsksStatus data → leaks.padding = true
  | .egcEvent event => leaks.touches = false → event.OnScreen
  | .tick w => (s.core.links w).active = true →
      (tickBranch s.core s.periphery w = .extensionChange → leaks.padding = true) ∧
        (leaks.camera = false → leaks.touches = true → ¬ FeedsStackDots s.core s.periphery w)
  | _ => True

theorem partStep_alike {leaks : Leaks} {s t : World} {part : Part} (like : LikeWorld leaks s t)
    (keeps : part.Keeps leaks s) :
    Alike (LikeWorld leaks) (partStep s part) (partStep t part) := by
  have ends {α : Type} {m : M α} (handled : WorldsAt leaks Eq m m s) :
      WorldsAt leaks Eq (m >>= fun _ => pure ()) (m >>= fun _ => pure ()) s :=
    handled.bind fun _ _ u _ _ => (Relates.pure rfl).at_state u
  suffices handled : WorldsAt leaks Eq (handlePart part) (handlePart part) s from
    handled.after like
  cases part with
  | hciCommand data => exact ends (worlds_hciStateHandleHciCmdFromHost data keeps)
  | aclOut data => exact ends (worlds_hciStateHandleAclDataOutRequestFromHost data keeps)
  | bufferRequest ep msg => exact (worlds_handleBufferRequest ep msg).at_state s
  | handDownReply ep retval written =>
      exact (worlds_oh1ResourceReply ep retval written).at_state s
  | egcEvent event => exact (worlds_handleEgcEvent keeps).at_state s
  | tickSlots => exact worlds_inputDevicesTick.at_state s
  | assign =>
      refine Relates.at_state (worlds_core fun s t _ core => ?_) s
      rw [core]
      refine .when Iff.rfl ?_
      exact Relates.bind_eq (worlds_checkAssignInputDevice 0) fun _ =>
        worlds_checkAssignInputDevice 1
  | tick w =>
      exact worlds_tickActive w (fun active => (keeps active).1) fun hidden touches active =>
        (keeps active).2 hidden touches
  | completedPackets => exact worlds_sendEventNumberOfCompletedPackets.at_state s

theorem runs_alike {leaks : Leaks} {s t : World} {inputs : List Input}
    (like : LikeWorld leaks s t)
    (keeps : Throughout partStep (fun s part => part.Keeps leaks s) s
      (inputs.flatMap Input.parts)) :
    Alike (LikeWorld leaks) (runAll step s inputs) (runAll step t inputs) := by
  rw [runAll_parts, runAll_parts]
  refine Alike.runAll ?_ _ like keeps
  exact fun s t part like keeps => partStep_alike like keeps

/-- The environments differ in uninitialised memory: in what fresh blocks of the heap hold, and in
what the stack holds. -/
structure Environment.Twin (env other : Environment) : Prop where
  refused : ∀ n, (other.heap n).isSome = (env.heap n).isSome
  rest : other = { env with
    heap := other.heap
    platform := { env.platform with stack := other.platform.stack } }

theorem LikeWorld.init {leaks : Leaks} {env other : Environment} (twin : env.Twin other)
    (onScreen : leaks.touches = false → ∀ id, 0 ≤ (env.gamepads id).touchX.toInt) :
    LikeWorld leaks (World.init env) (World.init other) := by
  have gamepads : other.gamepads = env.gamepads := by rw [twin.rest]
  have top : other.sensorBarPositionTop = env.sensorBarPositionTop := by rw [twin.rest]
  have intr : other.refuseIntr = env.refuseIntr := by rw [twin.rest]
  have bulkIn : other.refuseBulkIn = env.refuseBulkIn := by rw [twin.rest]
  have platform : other.platform = { env.platform with stack := other.platform.stack } := by
    rw [twin.rest]
  have fresh : ∀ loose cap pending refuse, LikeEndpoint loose (Endpoint.init cap pending refuse)
      (Endpoint.init cap pending refuse) := fun loose cap pending refuse =>
    { readyQ := .nil, readyCap := rfl, pendingQ := rfl, pendingCap := rfl, handDown := rfl
      handDownPending := rfl, refuse := rfl, sends := rfl, requests := rfl, produced := .nil
      acks := .nil, freed := rfl, dropped := .nil, outstanding := rfl }
  refine ⟨rfl, ?_, ?_, .nil, rfl⟩
  · dsimp only [World.init]
    rw [intr]
    exact fresh _ _ _ _
  · refine ⟨fun w => .refl _ _, rfl, gamepads, ?_, ⟨twin.refused, rfl, rfl⟩, rfl, top, platform,
      rfl, rfl, onScreen⟩
    dsimp only [World.init]
    rw [bulkIn]
    exact fresh _ _ _ _

def Input.OnScreen : Input → Prop
  | .timer events => ∀ event ∈ events, event.OnScreen
  | _ => True

theorem keeps_onScreen {touched : Bool} {input : Input}
    (onScreen : touched = false → input.OnScreen) {part : Part} (listed : part ∈ input.parts)
    (s : World) : part.Keeps ⟨true, true, touched, touched⟩ s := by
  cases part with
  | hciCommand data => exact fun _ => rfl
  | aclOut data => exact fun _ => rfl
  | egcEvent event =>
      intro untouched
      cases input with
      | timer events =>
          have plugged : event ∈ events := by simpa [Input.parts] using listed
          exact onScreen untouched event plugged
      | _ => simp [Input.parts] at listed
  | tick w =>
      refine fun _ => ⟨fun _ => rfl, fun hidden touches => ?_⟩
      dsimp only at hidden touches
      rw [hidden] at touches
      cases touches
  | _ => exact trivial

def Environment.filledWith (byte : UInt8) : Environment :=
  { Environment.gamepad with
    heap := fun _ => some fun _ => byte
    platform := { Environment.gamepad.platform with stack := fun _ => byte } }

def nameRequest : List UInt8 :=
  bytes16 (htole16 hciCmdRemoteNameReq) ++ [10] ++ (fakeWiimoteBdaddr 0).val ++ [0, 0, 0, 0]

end Fakemote
