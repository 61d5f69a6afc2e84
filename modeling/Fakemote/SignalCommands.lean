import Fakemote.ConfigOptions

/-! The commands of a signalling packet as the loop finds them, and how far into the packet it and
its handlers read. -/

namespace Fakemote

open Bytes Program

/-- A command: where its header stands in the L2CAP payload, and what the header says. -/
structure SignalCommand where
  offset : Nat
  code : UInt8
  ident : UInt8
  length : UInt16
  deriving DecidableEq, Repr

/-- The structure that the payload of a command is read as; Connect Request, Connect Response,
Config Request, Config Response and Disconnect Request have one. -/
def signalStructureSize (code : UInt8) : Nat :=
  if code = l2capConnectReq then 4
  else if code = l2capConnectRsp then 8
  else if code = l2capConfigReq then l2capCfgReqCpSize
  else if code = l2capConfigRsp then l2capCfgRspCpSize
  else if code = l2capDisconnectReq then 4
  else 0

namespace SignalCommand

def next (command : SignalCommand) : Nat :=
  command.offset + l2capCmdHdrSize + command.length.toNat

def memory (command : SignalCommand) (payload : List UInt8) : List UInt8 :=
  payload.drop (command.offset + l2capCmdHdrSize)

def handle (w : WiimoteId) (payload : List UInt8) (command : SignalCommand) : M Unit :=
  handleL2capSignalChannel w command.code command.ident (command.memory payload) command.length

/-- The header and the declared payload lie inside the L2CAP payload, as far as the packet holds
it, and the declared payload holds the structure it is read as. -/
structure Inside (payload : List UInt8) (length : Nat) (command : SignalCommand) : Prop where
  within : command.next ≤ (payload.take length).length
  whole : signalStructureSize command.code ≤ command.length.toNat

def OptionsInside (payload : List UInt8) (command : SignalCommand) : Prop :=
  command.code = l2capConfigReq → load16 (command.memory payload) 2 = .ok 0 →
    OptionsReadable ((command.memory payload).drop l2capCfgReqCpSize)
      (command.length.toNat - l2capCfgReqCpSize)

end SignalCommand

def commandHeader (payload : List UInt8) (offset : Nat) : Except Fault SignalCommand := do
  let code ← load8 payload offset
  let ident ← load8 payload (offset + 1)
  let length ← load16 payload (offset + 2)
  return ⟨offset, code, ident, le16toh length⟩

/-- The commands that the loop hands to their handlers as these return, and how the loop ends. -/
def signalCommands (payload : List UInt8) : (fuel offset : Nat) → (length : UInt16) →
    List SignalCommand × Except Fault Unit
  | 0, _, _ => ([], .error .outOfBounds)
  | fuel + 1, offset, length =>
      if length.toNat < l2capCmdHdrSize then ([], .ok ())
      else
        match commandHeader payload offset with
        | .error fault => ([], .error fault)
        | .ok command =>
            let (commands, ending) := signalCommands payload fuel command.next
              (length - (UInt16.ofNat l2capCmdHdrSize + command.length))
            (command :: commands, ending)

def handleCommands (w : WiimoteId) (payload : List UInt8) : List SignalCommand → M Unit
  | [] => pure ()
  | command :: rest => do
      command.handle w payload
      handleCommands w payload rest

theorem commandHeader_ok {payload : List UInt8} {offset : Nat} {command : SignalCommand} :
    commandHeader payload offset = .ok command ↔
      ∃ size, load8 payload offset = .ok command.code ∧
        load8 payload (offset + 1) = .ok command.ident ∧
        load16 payload (offset + 2) = .ok size ∧
        command.length = le16toh size ∧ command.offset = offset := by
  unfold commandHeader
  constructor
  · intro run
    obtain ⟨code, codeAt, run⟩ := except_bind_ok.mp run
    obtain ⟨ident, identAt, run⟩ := except_bind_ok.mp run
    obtain ⟨size, sizeAt, run⟩ := except_bind_ok.mp run
    cases run
    exact ⟨size, codeAt, identAt, sizeAt, rfl, rfl⟩
  · rintro ⟨size, codeAt, identAt, sizeAt, length, rfl⟩
    rw [codeAt, except_ok_bind, identAt, except_ok_bind, sizeAt, except_ok_bind, ← length]
    rfl

theorem signalCommands_command {payload : List UInt8} {offset : Nat} {length : UInt16}
    {command : SignalCommand} (fuel : Nat) (more : ¬ length.toNat < l2capCmdHdrSize)
    (header : commandHeader payload offset = .ok command) :
    signalCommands payload (fuel + 1) offset length =
      (command :: (signalCommands payload fuel command.next
          (length - (UInt16.ofNat l2capCmdHdrSize + command.length))).1,
        (signalCommands payload fuel command.next
          (length - (UInt16.ofNat l2capCmdHdrSize + command.length))).2) := by
  rw [signalCommands, if_neg more, header]

theorem signalCommands_error {payload : List UInt8} {offset : Nat} {length : UInt16}
    {fault : Fault} (fuel : Nat) (more : ¬ length.toNat < l2capCmdHdrSize)
    (header : commandHeader payload offset = .error fault) :
    signalCommands payload (fuel + 1) offset length = ([], .error fault) := by
  rw [signalCommands, if_neg more, header]

theorem handleL2capSignalChannelRequest_turn (w : WiimoteId) (payload : List UInt8)
    (fuel offset : Nat) {length : UInt16} (more : ¬ length.toNat < l2capCmdHdrSize) (s : World) :
    handleL2capSignalChannelRequest w (fuel + 1) (payload.drop offset) length s =
      (do let command ← (liftM (commandHeader payload offset) : M SignalCommand)
          command.handle w payload
          handleL2capSignalChannelRequest w fuel (payload.drop command.next)
            (length - (UInt16.ofNat l2capCmdHdrSize + command.length)) : M Unit) s := by
  rw [handleL2capSignalChannelRequest, if_neg more, load8_drop, load8_drop, load16_drop,
    Nat.add_zero]
  unfold commandHeader
  cases codeAt : load8 payload offset with
  | error fault => rfl
  | ok code =>
      cases identAt : load8 payload (offset + 1) with
      | error fault => rfl
      | ok ident =>
          cases sizeAt : load16 payload (offset + 2) with
          | error fault => rfl
          | ok size =>
              rw [bind_run (lift_run_ok _ s), bind_run (lift_run_ok _ s),
                bind_run (lift_run_ok _ s), List.drop_drop, List.drop_drop, ← Nat.add_assoc]
              rfl

/-- The loop runs the handlers of its commands, and then ends as it does. -/
theorem handleL2capSignalChannelRequest_commands (w : WiimoteId) (payload : List UInt8)
    (fuel : Nat) : ∀ (offset : Nat) (length : UInt16) (s : World),
      handleL2capSignalChannelRequest w fuel (payload.drop offset) length s =
        (handleCommands w payload (signalCommands payload fuel offset length).1 >>= fun _ =>
          (liftM (signalCommands payload fuel offset length).2 : M Unit)) s := by
  induction fuel with
  | zero => exact fun _ _ _ => rfl
  | succ fuel ih =>
      intro offset length s
      by_cases ends : length.toNat < l2capCmdHdrSize
      · unfold handleL2capSignalChannelRequest signalCommands
        rw [if_pos ends, if_pos ends]
        rfl
      · rw [handleL2capSignalChannelRequest_turn w payload fuel offset ends]
        cases header : commandHeader payload offset with
        | error fault =>
            rw [signalCommands_error fuel ends header]
            rfl
        | ok command =>
            rw [signalCommands_command fuel ends header, bind_run (lift_run_ok _ s)]
            change (command.handle w payload >>= fun _ => _) s =
              ((command.handle w payload >>= fun _ => handleCommands w payload _) >>= fun _ => _) s
            cases handled : command.handle w payload s with
            | error fault =>
                rw [bind_error.mpr (Or.inl handled),
                  bind_error.mpr (Or.inl (bind_error.mpr (Or.inl handled)))]
            | ok done =>
                rw [bind_run handled, ih, bind_assoc, bind_run handled]

theorem SignalCommand.memory_length (payload : List UInt8) (command : SignalCommand) :
    (command.memory payload).length = payload.length - (command.offset + l2capCmdHdrSize) :=
  List.length_drop

theorem SignalCommand.Inside.room {payload : List UInt8} {length : Nat} {command : SignalCommand}
    (inside : command.Inside payload length) :
    command.length.toNat ≤ (command.memory payload).length := by
  have within := inside.within
  rw [List.length_take] at within
  rw [command.memory_length]
  unfold SignalCommand.next at within
  omega

theorem optionsSize {length : UInt16} (whole : l2capCfgReqCpSize ≤ length.toNat) :
    (length - UInt16.ofNat l2capCfgReqCpSize).toNat = length.toNat - l2capCfgReqCpSize := by
  have small := length.toNat_lt
  rw [UInt16.toNat_sub_of_le]
  · rfl
  · exact UInt16.le_iff_toNat_le.mpr whole

theorem le16toh_eq_zero {word : UInt16} (zero : le16toh word = 0) : word = 0 := by
  have back := congrArg htole16 zero
  rw [htole16_le16toh] at back
  exact back

theorem inBounds_handleL2capConfigReq {dev : Device} {ident : UInt8} {dcid flags size : UInt16}
    {options : List UInt8} (room : size.toNat ≤ options.length)
    (readable : flags = 0 → OptionsReadable options size.toNat) :
    InBounds (dev.handleL2capConfigReq ident dcid flags options size) := by
  unfold Device.handleL2capConfigReq
  by_cases none : flags = 0
  · refine Raises.bind (inBounds_assertThat _ _) fun _ =>
      Raises.bind (dev.inBounds_channelOrFault _) fun chn => Raises.bind (Raises.lift ?_) fun mtu =>
      Raises.bind (inBounds_getSession _) fun wiimote =>
      Raises.bind (inBounds_modifySession _ _) fun _ =>
      Raises.bind (inBounds_injectL2capConfigRsp room) fun _ => Raises.pure ()
    intro e fault same
    rw [same] at fault
    exact (configOptions_readable options size.toNat _).mpr (readable none) fault
  · -- flags stop the handler before it reads the options
    intro s e run same
    rw [same] at run
    rcases bind_error.mp run with fault | ⟨u, t, asserted, -⟩
    · exact inBounds_assertThat _ _ s _ fault rfl
    · unfold assertThat at asserted
      rw [if_neg none] at asserted
      cases asserted

theorem SignalCommand.Inside.handle {payload : List UInt8} {length : Nat} {command : SignalCommand}
    (inside : command.Inside payload length) (options : command.OptionsInside payload)
    (w : WiimoteId) : InBounds (command.handle w payload) := by
  have room := inside.room
  have whole := inside.whole
  unfold signalStructureSize at whole
  unfold SignalCommand.handle handleL2capSignalChannel
  by_cases connectRsp : command.code = l2capConnectRsp
  · rw [if_neg (by rw [connectRsp]; decide), if_pos connectRsp] at whole
    rw [if_pos connectRsp]
    refine Raises.bind (inBounds_load16 (by omega)) fun _ =>
      Raises.bind (inBounds_load16 (by omega)) fun _ =>
      Raises.bind (inBounds_load16 (by omega)) fun _ =>
      Raises.bind (inBounds_load16 (by omega)) fun _ => Raises.ite ?_ ?_
    · exact Raises.bind (inBounds_fakeWiimoteDisconnect w) fun _ => Raises.pure ()
    · exact inBounds_onDevice fun dev _ => dev.inBounds_handleConnectRsp _ _ _
  rw [if_neg connectRsp] at whole ⊢
  by_cases configReq : command.code = l2capConfigReq
  · rw [if_neg (by rw [configReq]; decide), if_pos configReq] at whole
    rw [if_pos configReq]
    have header : 4 ≤ (command.memory payload).length := Nat.le_trans whole room
    obtain ⟨raw, rawAt⟩ := load16_readable.mpr (show 2 + 2 ≤ (command.memory payload).length by omega)
    rw [rawAt]
    refine Raises.bind (inBounds_load16 (by omega)) fun dcid => ?_
    intro s e run
    rw [bind_run (lift_run_ok raw s)] at run
    refine inBounds_onDevice (fun dev _ => inBounds_handleL2capConfigReq ?_ ?_) s e run
    · rw [optionsSize whole, List.length_drop]
      omega
    · intro none
      rw [optionsSize whole]
      apply options configReq
      rw [rawAt, le16toh_eq_zero none]
  rw [if_neg configReq] at whole ⊢
  by_cases configRsp : command.code = l2capConfigRsp
  · rw [if_neg (by rw [configRsp]; decide), if_pos configRsp] at whole
    rw [if_pos configRsp]
    have header : 6 ≤ (command.memory payload).length := Nat.le_trans whole room
    refine Raises.bind (inBounds_load16 (by omega)) fun _ =>
      Raises.bind (inBounds_load16 (by omega)) fun _ => ?_
    exact inBounds_onDevice fun dev _ => dev.inBounds_handleConfigRsp _ _
  rw [if_neg configRsp] at whole ⊢
  by_cases disconnectReq : command.code = l2capDisconnectReq
  · rw [if_neg (by rw [disconnectReq]; decide), if_pos disconnectReq] at whole
    rw [if_pos disconnectReq]
    refine Raises.bind (inBounds_load16 (by omega)) fun _ =>
      Raises.bind (inBounds_load16 (by omega)) fun _ => ?_
    exact inBounds_onDevice fun dev _ => dev.inBounds_handleDisconnectReq _ _ _
  rw [if_neg disconnectReq] at whole ⊢
  by_cases connectReq : command.code = l2capConnectReq
  · rw [if_pos connectReq] at whole ⊢
    exact Raises.bind (inBounds_load16 (by omega)) fun _ =>
      Raises.bind (inBounds_load16 (by omega)) fun _ => Raises.pure ()
  · rw [if_neg connectReq]
    exact Raises.pure ()

def channelWorld (localCid : UInt16) : World :=
  { World.init .lenient with
    periphery := { (World.init .lenient).periphery with
      sessions := fun _ =>
        { Session.zero with
          psmHidCntlChn := ⟨true, .configPend, l2capPsmHidCntl, localCid, 0x50, 0⟩ } } }

theorem channelWorld_valid (localCid : UInt16) :
    ((channelWorld localCid).periphery.sessions 0).getChannelInfo localCid = some .hidCntl := by
  simp [Session.getChannelInfo, channelWorld, Session.zero, L2capChannelInfo.zero]

theorem onDevice_error {α : Type} {w : WiimoteId} {body : Device → P α} {s : World} {fault : Fault}
    (run : body ⟨s.core, w⟩ s.periphery = .error fault) : onDevice w body s = .error fault := by
  unfold onDevice withPeriphery zoom
  dsimp only
  rw [run]

/-- With a channel to configure, the handler of a Config Request reads all of its options. -/
theorem SignalCommand.optionsInside {payload : List UInt8} {length : Nat} {command : SignalCommand}
    (inside : command.Inside payload length)
    (reads : ∀ s, command.handle 0 payload s ≠ .error .outOfBounds) :
    command.OptionsInside payload := by
  intro configReq flags
  have room := inside.room
  have whole := inside.whole
  rw [configReq] at whole
  change l2capCfgReqCpSize ≤ _ at whole
  have header : 4 ≤ (command.memory payload).length := Nat.le_trans whole room
  obtain ⟨raw, rawAt⟩ := load16_readable.mpr (show 0 + 2 ≤ (command.memory payload).length by omega)
  apply (configOptions_readable _ _ l2capMtuDefault).mp
  intro fault
  rw [← optionsSize whole] at fault
  apply reads (channelWorld (le16toh raw))
  unfold SignalCommand.handle handleL2capSignalChannel
  rw [if_neg (by rw [configReq]; decide), if_pos configReq, rawAt, bind_run (lift_run_ok _ _), flags,
    bind_run (lift_run_ok _ _)]
  apply onDevice_error
  exact handleL2capConfigReq_fault command.ident (channelWorld_valid (le16toh raw)) fault

/-- The loop ends in the packet, the commands that it hands over lie inside the L2CAP payload, and
neither their handlers nor the loop with them read outside the packet, in any state. -/
structure StaysInside (payload : List UInt8) (length : UInt16) : Prop where
  ends : (signalCommands payload (payload.length + 1) 0 length).2 = .ok ()
  processed : ∀ command ∈ (signalCommands payload (payload.length + 1) 0 length).1,
    command.Inside payload length.toNat
  handled : ∀ command ∈ (signalCommands payload (payload.length + 1) 0 length).1,
    ∀ w s, command.handle w payload s ≠ .error .outOfBounds
  reads : ∀ w s, handleL2capSignalChannelRequest w (payload.length + 1) payload length s ≠
    .error .outOfBounds

/-- From an offset on, the L2CAP payload is a sequence of commands that lie inside it, and fewer
bytes than a header takes. -/
inductive CommandSequence (payload : List UInt8) (length : Nat) : Nat → Prop
  | rest {offset : Nat} (short : length < offset + l2capCmdHdrSize) :
      CommandSequence payload length offset
  | command {offset : Nat} {command : SignalCommand}
      (header : commandHeader payload offset = .ok command)
      (inside : command.Inside payload length) (options : command.OptionsInside payload)
      (more : CommandSequence payload length command.next) :
      CommandSequence payload length offset

theorem left_next {payload : List UInt8} {offset total : Nat} {length : UInt16}
    {command : SignalCommand} (left : length.toNat + offset = total)
    (header : commandHeader payload offset = .ok command)
    (inside : command.Inside payload total) :
    (length - (UInt16.ofNat l2capCmdHdrSize + command.length)).toNat + command.next = total ∧
      offset + l2capCmdHdrSize ≤ command.next ∧ command.next ≤ payload.length := by
  have within := inside.within
  obtain ⟨size, -, -, -, -, place⟩ := commandHeader_ok.mp header
  have small := length.toNat_lt
  have sum : (UInt16.ofNat l2capCmdHdrSize + command.length).toNat = 4 + command.length.toNat := by
    rw [UInt16.toNat_add]
    simp only [SignalCommand.next, l2capCmdHdrSize, List.length_take] at within ⊢
    have four : (UInt16.ofNat 4).toNat = 4 := rfl
    omega
  have fits : UInt16.ofNat l2capCmdHdrSize + command.length ≤ length := by
    rw [UInt16.le_iff_toNat_le, sum]
    simp only [SignalCommand.next, l2capCmdHdrSize, List.length_take] at within
    omega
  rw [UInt16.toNat_sub_of_le _ _ fits, sum]
  simp only [SignalCommand.next, l2capCmdHdrSize, List.length_take] at within ⊢
  omega

theorem CommandSequence.commands {payload : List UInt8} {total offset : Nat}
    (sequence : CommandSequence payload total offset) :
    ∀ (fuel : Nat) (length : UInt16), length.toNat + offset = total →
      payload.length < fuel + offset → 0 < fuel →
      (signalCommands payload fuel offset length).2 = .ok () ∧
      ∀ command ∈ (signalCommands payload fuel offset length).1,
        command.Inside payload total ∧ command.OptionsInside payload := by
  induction sequence with
  | @rest offset short =>
      intro fuel length left _ some
      obtain ⟨fuel, rfl⟩ : ∃ less, fuel = less + 1 := ⟨fuel - 1, by omega⟩
      rw [signalCommands, if_pos (by omega)]
      exact ⟨rfl, nofun⟩
  | @command offset command header inside options _ ih =>
      intro fuel length left enough some
      obtain ⟨fuel, rfl⟩ : ∃ less, fuel = less + 1 := ⟨fuel - 1, by omega⟩
      obtain ⟨remains, further, within⟩ := left_next left header inside
      rw [l2capCmdHdrSize] at further
      have more : ¬ length.toNat < l2capCmdHdrSize := by
        rw [l2capCmdHdrSize]
        omega
      obtain ⟨ends, rest⟩ := ih fuel _ remains (by omega) (by omega)
      rw [signalCommands_command fuel more header]
      refine ⟨ends, ?_⟩
      intro other member
      rcases List.mem_cons.mp member with rfl | member
      · exact ⟨inside, options⟩
      · exact rest other member

/-- A loop that ends, over commands that lie inside the payload and are handled inside it, is over
a sequence of commands. -/
theorem commandSequence_of_commands {payload : List UInt8} {total : Nat} (fuel : Nat) :
    ∀ (offset : Nat) (length : UInt16), length.toNat + offset = total →
      (signalCommands payload fuel offset length).2 = .ok () →
      (∀ command ∈ (signalCommands payload fuel offset length).1, command.Inside payload total ∧
        ∀ s, command.handle 0 payload s ≠ .error .outOfBounds) →
      CommandSequence payload total offset := by
  induction fuel with
  | zero =>
      intro offset length _ ends _
      cases ends
  | succ fuel ih =>
      intro offset length left ends commands
      by_cases last : length.toNat < l2capCmdHdrSize
      · exact .rest (by omega)
      · cases header : commandHeader payload offset with
        | error fault =>
            rw [signalCommands_error fuel last header] at ends
            cases ends
        | ok command =>
            rw [signalCommands_command fuel last header] at ends commands
            obtain ⟨inside, reads⟩ := commands command List.mem_cons_self
            have next := (left_next left header inside).1
            refine .command header inside (SignalCommand.optionsInside inside reads) ?_
            exact ih command.next _ next ends fun other member =>
              commands other (List.mem_cons_of_mem _ member)

theorem inBounds_handleCommands {w : WiimoteId} {payload : List UInt8}
    {commands : List SignalCommand}
    (handled : ∀ command ∈ commands, InBounds (command.handle w payload)) :
    InBounds (handleCommands w payload commands) := by
  induction commands with
  | nil => exact Raises.pure ()
  | cons command rest ih =>
      refine Raises.bind (handled command List.mem_cons_self) fun _ => ih ?_
      exact fun other member => handled other (List.mem_cons_of_mem _ member)

/-- The walk through a signalling packet stays inside it exactly when its payload is a sequence of
commands, each as long as it declares and as the structure it is read as, and the options of its
Config Requests are in the packet. `payload` is the packet after the L2CAP header, whose length
field is `length`. -/
theorem signalling_stays_inside (payload : List UInt8) (length : UInt16) :
    StaysInside payload length ↔ CommandSequence payload length.toNat 0 := by
  constructor
  · intro stays
    apply commandSequence_of_commands (payload.length + 1) 0 length rfl stays.ends
    exact fun command member => ⟨stays.processed command member, stays.handled command member 0⟩
  · intro sequence
    obtain ⟨ends, commands⟩ := sequence.commands (payload.length + 1) length rfl
      (Nat.lt_succ_self _) (Nat.succ_pos _)
    have handled (command : SignalCommand)
        (member : command ∈ (signalCommands payload (payload.length + 1) 0 length).1)
        (w : WiimoteId) : InBounds (command.handle w payload) :=
      (commands command member).1.handle (commands command member).2 w
    refine ⟨ends, fun command member => (commands command member).1, ?_, ?_⟩
    · exact fun command member w s => (handled command member w).run s
    · intro w s fault
      have walk := handleL2capSignalChannelRequest_commands w payload (payload.length + 1) 0 length s
      rw [List.drop_zero] at walk
      rw [walk] at fault
      rcases bind_error.mp fault with first | ⟨u, t, -, second⟩
      · exact (inBounds_handleCommands fun command member => handled command member w).run s first
      · rw [ends] at second
        cases second

/-- A Disconnect Request that declares no payload is handed to its handler, which reads four bytes
behind it. -/
theorem short_disconnect_request_read : ¬ StaysInside [6, 1, 0, 0] 4 := by
  intro stays
  have inside := stays.processed ⟨0, 6, 1, 0⟩ (by decide)
  exact absurd inside.whole (by decide)

end Fakemote
