import Fakemote.Runs

/-! The inputs of the module taken apart: one call for each command of a signalling packet and for
each thing that the timer does. -/

namespace Fakemote

open Bytes Program Transition

inductive Call
  | hciCommand (data : List UInt8)
  | count (w : WiimoteId)
  | command (w : WiimoteId) (code ident : UInt8) (payload : List UInt8) (size : UInt16)
  | channelData (w : WiimoteId) (dcid : UInt16) (payload : List UInt8) (length : UInt16)
  | bufferRequest (ep : EndpointId) (msg : IpcMessage)
  | handDownReply (ep : EndpointId) (retval : Int) (written : List UInt8)
  | egcEvent (event : EgcEvent)
  | tickSlots
  | assign (w : WiimoteId)
  | tick (w : WiimoteId)
  | completedPackets

def handleCall : Call → M Unit
  | .hciCommand data => do
      let _ ← hciStateHandleHciCmdFromHost data
  | .count w => modifyLink w fun link =>
      { link with numCompletedAclDataPackets := link.numCompletedAclDataPackets + 1 }
  | .command w code ident payload size => handleL2capSignalChannel w code ident payload size
  | .channelData w dcid payload length => onDevice w fun dev =>
      dev.handleChannelData dcid payload length
  | .bufferRequest ep msg => handleBufferRequest ep msg
  | .handDownReply ep retval written => oh1ResourceReply ep retval written
  | .egcEvent event => handleEgcEvent event
  | .tickSlots => inputDevicesTick
  | .assign w => do
      let s ← get
      when (hciCanRequestConnection s.core.hci) (checkAssignInputDevice w)
  | .tick w => tickActive w
  | .completedPackets => fakeWiimoteMgrSendEventNumberOfCompletedPackets

def callStep (s : World) (c : Call) : Except Fault World :=
  match handleCall c s with
  | .ok (_, t) => .ok t
  | .error fault => .error fault

theorem callStep_ok {s t : World} {c : Call} :
    callStep s c = .ok t ↔ handleCall c s = .ok ((), t) := by
  unfold callStep
  cases run : handleCall c s with
  | error fault => simp
  | ok result =>
      obtain ⟨⟨⟩, after⟩ := result
      simp

/-- Packets reach a connected fake Wiimote only; the commands of a packet that disconnects it are
all handled. -/
def Made (s : World) : Call → Prop
  | .count w | .channelData w _ _ _ => (s.core.links w).isConnected = true
  | _ => True

/-- The states of the runs whose calls all meet `condition`. -/
def CallRun (env : Environment) (condition : World → Call → Prop) : World → Prop :=
  Reachable callStep (fun s c => Made s c ∧ condition s c) (World.init env)

def anyCall (_ : World) (_ : Call) : Prop := True

abbrev Calls : World → World → Prop := Reachable callStep Made

theorem calls_single {s t : World} (c : Call) {u : Unit} (made : Made s c)
    (run : handleCall c s = .ok (u, t)) : Calls s t :=
  .next .start made (callStep_ok.mpr run)

theorem signal_calls {w : WiimoteId} {u : Unit} (fuel : Nat) :
    ∀ {s t : World} {data : List UInt8} {length : UInt16},
      handleL2capSignalChannelRequest w fuel data length s = .ok (u, t) → Calls s t := by
  induction fuel with
  | zero =>
      intro s t data length run
      cases run
  | succ fuel ih =>
      intro s t data length run
      unfold handleL2capSignalChannelRequest at run
      rcases ite_run run with ⟨-, run⟩ | ⟨-, run⟩
      · cases run
        exact .start
      · obtain ⟨code, _, first, run⟩ := bind_ok.mp run
        obtain ⟨-, rfl⟩ := lift_ok.mp first
        obtain ⟨ident, _, second, run⟩ := bind_ok.mp run
        obtain ⟨-, rfl⟩ := lift_ok.mp second
        obtain ⟨size, _, third, run⟩ := bind_ok.mp run
        obtain ⟨-, rfl⟩ := lift_ok.mp third
        obtain ⟨_, s1, command, run⟩ := bind_ok.mp run
        exact (calls_single (.command w code ident _ _) trivial command).trans (ih run)

theorem aclOut_calls {s t : World} {data : List UInt8} {result : Bool × List UInt8}
    (run : hciStateHandleAclDataOutRequestFromHost data s = .ok (result, t)) : Calls s t := by
  obtain ⟨word, _, first, run⟩ := bind_ok.mp run
  obtain ⟨-, rfl⟩ := lift_ok.mp first
  obtain ⟨handled, s1, managed, run⟩ := bind_ok.mp run
  have calls : Calls s s1 := by
    obtain ⟨_, _, got, managed⟩ := bind_ok.mp managed
    cases got
    rcases owned : getFakeWiimoteForHciConHandle s.core (hciConHandle (le16toh word)) with _ | w
    · rw [owned] at managed
      cases managed
      exact .start
    · rw [owned] at managed
      obtain ⟨_, s2, packet, managed⟩ := bind_ok.mp managed
      cases managed
      obtain ⟨_, s3, counted, packet⟩ := bind_ok.mp packet
      obtain ⟨length, _, second, packet⟩ := bind_ok.mp packet
      obtain ⟨-, rfl⟩ := lift_ok.mp second
      obtain ⟨dcid, _, third, packet⟩ := bind_ok.mp packet
      obtain ⟨-, rfl⟩ := lift_ok.mp third
      have connected := (getFakeWiimote_connected owned).1
      apply (calls_single (.count w) connected counted).trans
      rcases ite_run packet with ⟨-, signal⟩ | ⟨-, channel⟩
      · exact signal_calls _ signal
      · cases counted
        apply calls_single (.channelData w _ _ _) _ channel
        simpa [Made, Core.setLink, Link.isConnected] using connected
  rcases ite_run run with ⟨-, run⟩ | ⟨-, run⟩
  · cases run
    exact calls
  · obtain ⟨_, _, got, run⟩ := bind_ok.mp run
    cases got
    obtain ⟨bytes, _, translated, run⟩ := bind_ok.mp run
    obtain ⟨-, rfl⟩ := lift_ok.mp translated
    cases run
    exact calls

theorem egcEvents_calls {u : Unit} (events : List EgcEvent) :
    ∀ {s t : World}, egcHandleEvents events s = .ok (u, t) → Calls s t := by
  induction events with
  | nil =>
      intro s t run
      cases run
      exact .start
  | cons event events ih =>
      intro s t run
      obtain ⟨_, s1, first, run⟩ := bind_ok.mp run
      exact (calls_single (.egcEvent event) trivial first).trans (ih run)

theorem checkAssignInputDevice_hci {s t : World} {w : WiimoteId} {u : Unit}
    (run : checkAssignInputDevice w s = .ok (u, t)) : t.core.hci = s.core.hci := by
  obtain ⟨_, _, got, run⟩ := bind_ok.mp run
  cases got
  rcases ite_run run with ⟨-, run⟩ | ⟨-, run⟩
  · cases run
    rfl
  · rcases found : inputDeviceGetUnassigned s.core with _ | d
    · rw [found] at run
      cases run
      rfl
    · rw [found] at run
      cases run
      rfl

theorem tickDevices_calls {s t : World} {u : Unit}
    (run : fakeWiimoteMgrTickDevices s = .ok (u, t)) : Calls s t := by
  obtain ⟨_, _, got, run⟩ := bind_ok.mp run
  cases got
  obtain ⟨_, s1, assigned, run⟩ := bind_ok.mp run
  obtain ⟨_, s2, first, run⟩ := bind_ok.mp run
  obtain ⟨_, s3, second, run⟩ := bind_ok.mp run
  have assigns : Calls s s1 := by
    rcases ite_run assigned with ⟨can, assigned⟩ | ⟨-, assigned⟩
    · obtain ⟨_, s4, one, two⟩ := bind_ok.mp assigned
      have still := checkAssignInputDevice_hci one
      have one' : handleCall (.assign 0) s = .ok ((), s4) := by
        change (get >>= fun s => when (hciCanRequestConnection s.core.hci)
          (checkAssignInputDevice 0) : M Unit) s = _
        rw [bind_run (get_run s), when, if_pos can]
        exact one
      have two' : handleCall (.assign 1) s4 = .ok ((), s1) := by
        change (get >>= fun s => when (hciCanRequestConnection s.core.hci)
          (checkAssignInputDevice 1) : M Unit) s4 = _
        rw [bind_run (get_run s4), when, if_pos (by rw [still]; exact can)]
        exact two
      exact (calls_single (.assign 0) trivial one').trans (calls_single (.assign 1) trivial two')
    · cases assigned
      exact .start
  have ticks := (calls_single (.tick 0) trivial first).trans (calls_single (.tick 1) trivial second)
  exact (assigns.trans ticks).trans (calls_single .completedPackets trivial run)

theorem step_calls {s t : World} {input : Input} (run : step s input = .ok t) : Calls s t := by
  unfold step at run
  cases handled : handleInput input s with
  | error fault =>
      rw [handled] at run
      cases run
  | ok result =>
      obtain ⟨u, after⟩ := result
      rw [handled] at run
      cases run
      cases input with
      | hciCommand data => exact calls_single (.hciCommand data) trivial handled
      | aclOut data =>
          obtain ⟨result, s1, first, last⟩ := bind_ok.mp handled
          cases last
          exact aclOut_calls first
      | bufferRequest ep msg => exact calls_single (.bufferRequest ep msg) trivial handled
      | handDownReply ep retval written =>
          exact calls_single (.handDownReply ep retval written) trivial handled
      | timer events =>
          obtain ⟨_, s1, first, handled⟩ := bind_ok.mp handled
          obtain ⟨_, s2, slots, handled⟩ := bind_ok.mp handled
          exact ((egcEvents_calls events first).trans (calls_single .tickSlots trivial slots)).trans
            (tickDevices_calls handled)

theorem Run.calls {env : Environment} {condition : World → Input → Prop} {s : World}
    (reached : Run env condition s) : CallRun env anyCall s := by
  apply reached.invariant (CallRun env anyCall) .start
  intro s t input holds _ run
  exact holds.trans ((step_calls run).weaken fun _ _ made => ⟨made, trivial⟩)

end Fakemote
