import Fakemote.LedgerTrace

/-! Every step of the module is a path of the ledger: the moves that each input can lead to. -/

namespace Fakemote

open Bytes Program Ledger

def isFailedResponse (code : UInt8) (payload : List UInt8) : Bool :=
  match load16 payload 0, load16 payload 2, load16 payload 4 with
  | .ok dcid, .ok scid, .ok result =>
      code = l2capConnectRsp && connectRspFails (le16toh dcid) (le16toh scid) (le16toh result)
  | _, _, _ => false

def failedResponses : (fuel : Nat) → (data : List UInt8) → (length : UInt16) → Nat
  | 0, _, _ => 0
  | fuel + 1, data, length =>
      match load8 data 0, load16 data 2 with
      | .ok code, .ok size =>
          if length.toNat < l2capCmdHdrSize then 0
          else
            (isFailedResponse code (data.drop l2capCmdHdrSize)).toNat +
              failedResponses fuel (data.drop (l2capCmdHdrSize + (le16toh size).toNat))
                (length - (UInt16.ofNat l2capCmdHdrSize + le16toh size))
      | _, _ => 0

def aclFailedResponses (acl : List UInt8) : Nat :=
  match load16 acl hciAclDataHdrSize, load16 acl (hciAclDataHdrSize + 2) with
  | .ok length, .ok dcid =>
      let payload := acl.drop (hciAclDataHdrSize + l2capHdrSize)
      if le16toh dcid = l2capSignalCid then
        failedResponses (payload.length + 1) payload (le16toh length)
      else 0
  | _, _ => 0

def Disconnects (w : WiimoteId) (labels : List Label) : Prop :=
  ∀ label ∈ labels, ∃ placed, label = .disconnect w placed

theorem Disconnects.nil {w : WiimoteId} : Disconnects w [] := by
  intro label member
  cases member

theorem handleL2capSignalChannel_path {s t : World} {w : WiimoteId} {code ident : UInt8}
    {payload : List UInt8} {size : UInt16} {u : Unit}
    (run : handleL2capSignalChannel w code ident payload size s = .ok (u, t)) :
    ∃ labels, Disconnects w labels ∧ labels.length = (isFailedResponse code payload).toNat ∧
      s.ledger.Path labels t.ledger := by
  have still (same : t.ledger = s.ledger) (passed : isFailedResponse code payload = false) :
      ∃ labels, Disconnects w labels ∧ labels.length = (isFailedResponse code payload).toNat ∧
        s.ledger.Path labels t.ledger :=
    ⟨[], .nil, by simp [passed], same⟩
  have other (different : code ≠ l2capConnectRsp) : isFailedResponse code payload = false := by
    unfold isFailedResponse
    split
    · simp [different]
    · rfl
  unfold handleL2capSignalChannel at run
  split at run
  · rename_i response
    obtain ⟨dcid, s1, first, run⟩ := bind_ok.mp run
    obtain ⟨dcidAt, rfl⟩ := lift_ok.mp first
    obtain ⟨scid, s2, second, run⟩ := bind_ok.mp run
    obtain ⟨scidAt, rfl⟩ := lift_ok.mp second
    obtain ⟨result, s3, third, run⟩ := bind_ok.mp run
    obtain ⟨resultAt, rfl⟩ := lift_ok.mp third
    obtain ⟨status, s4, fourth, run⟩ := bind_ok.mp run
    obtain ⟨-, rfl⟩ := lift_ok.mp fourth
    split at run
    · rename_i fails
      obtain ⟨ret, s5, disconnected, run⟩ := bind_ok.mp run
      cases run
      obtain ⟨placed, moved⟩ := fakeWiimoteDisconnect_ledger disconnected
      refine ⟨[.disconnect w placed], ?_, ?_, trivial, moved⟩
      · intro label member
        exact ⟨placed, List.mem_singleton.mp member⟩
      · simp [isFailedResponse, dcidAt, scidAt, resultAt, response, fails]
    · rename_i passes
      refine still (onDevice_ledger (fun dev => dev.calm_handleConnectRsp _ _ _) run) ?_
      simpa [isFailedResponse, dcidAt, scidAt, resultAt, response] using passes
  · rename_i different
    refine still ?_ (other different)
    split at run
    · obtain ⟨_, s1, first, run⟩ := bind_ok.mp run
      obtain ⟨-, rfl⟩ := lift_ok.mp first
      obtain ⟨_, s2, second, run⟩ := bind_ok.mp run
      obtain ⟨-, rfl⟩ := lift_ok.mp second
      exact onDevice_ledger (fun dev => dev.calm_handleL2capConfigReq _ _ _ _ _) run
    · split at run
      · obtain ⟨_, s1, first, run⟩ := bind_ok.mp run
        obtain ⟨-, rfl⟩ := lift_ok.mp first
        obtain ⟨_, s2, second, run⟩ := bind_ok.mp run
        obtain ⟨-, rfl⟩ := lift_ok.mp second
        exact onDevice_ledger (fun dev => dev.calm_handleConfigRsp _ _) run
      · split at run
        · obtain ⟨_, s1, first, run⟩ := bind_ok.mp run
          obtain ⟨-, rfl⟩ := lift_ok.mp first
          obtain ⟨_, s2, second, run⟩ := bind_ok.mp run
          obtain ⟨-, rfl⟩ := lift_ok.mp second
          exact onDevice_ledger (fun dev => dev.calm_handleDisconnectReq _ _ _) run
        · split at run
          · obtain ⟨_, s1, first, run⟩ := bind_ok.mp run
            obtain ⟨-, rfl⟩ := lift_ok.mp first
            obtain ⟨_, s2, second, run⟩ := bind_ok.mp run
            obtain ⟨-, rfl⟩ := lift_ok.mp second
            cases run
            rfl
          · cases run
            rfl

theorem handleL2capSignalChannelRequest_path {w : WiimoteId} {u : Unit} (fuel : Nat) :
    ∀ {s t : World} {data : List UInt8} {length : UInt16},
      handleL2capSignalChannelRequest w fuel data length s = .ok (u, t) →
      ∃ labels, Disconnects w labels ∧ labels.length = failedResponses fuel data length ∧
        s.ledger.Path labels t.ledger := by
  induction fuel with
  | zero =>
      intro s t data length run
      cases run
  | succ fuel ih =>
      intro s t data length run
      unfold handleL2capSignalChannelRequest at run
      unfold failedResponses
      split at run
      · rename_i short
        cases run
        refine ⟨[], .nil, ?_, rfl⟩
        split
        · simp [short]
        · rfl
      · rename_i long
        obtain ⟨code, s1, first, run⟩ := bind_ok.mp run
        obtain ⟨codeAt, rfl⟩ := lift_ok.mp first
        obtain ⟨ident, s2, second, run⟩ := bind_ok.mp run
        obtain ⟨-, rfl⟩ := lift_ok.mp second
        obtain ⟨size, s3, third, run⟩ := bind_ok.mp run
        obtain ⟨sizeAt, rfl⟩ := lift_ok.mp third
        obtain ⟨_, s4, command, run⟩ := bind_ok.mp run
        obtain ⟨one, oneDisconnects, oneLength, onePath⟩ := handleL2capSignalChannel_path command
        obtain ⟨rest, restDisconnects, restLength, restPath⟩ := ih run
        refine ⟨one ++ rest, ?_, ?_, onePath.append restPath⟩
        · intro label member
          rcases List.mem_append.mp member with h | h
          · exact oneDisconnects label h
          · exact restDisconnects label h
        · simp only [codeAt, sizeAt, if_neg long, List.length_append, oneLength, restLength]

theorem fakeWiimoteHandleAclDataOutRequestFromHost_path {s t : World} {w : WiimoteId}
    {acl : List UInt8} {u : Unit}
    (run : fakeWiimoteHandleAclDataOutRequestFromHost w acl s = .ok (u, t)) :
    ∃ labels, Disconnects w labels ∧ labels.length = aclFailedResponses acl ∧
      (s.ledger.act (.consume w)).Path labels t.ledger := by
  obtain ⟨_, s1, counted, run⟩ := bind_ok.mp run
  unfold modifyLink at counted
  have consumed : s1.ledger = s.ledger.act (.consume w) := modifyCore_ledger counted
  obtain ⟨length, s2, first, run⟩ := bind_ok.mp run
  obtain ⟨lengthAt, rfl⟩ := lift_ok.mp first
  obtain ⟨dcid, s3, second, run⟩ := bind_ok.mp run
  obtain ⟨dcidAt, rfl⟩ := lift_ok.mp second
  rw [← consumed]
  unfold aclFailedResponses
  rw [lengthAt, dcidAt]
  dsimp only
  split at run
  · rename_i signal
    rw [if_pos signal]
    exact handleL2capSignalChannelRequest_path _ run
  · rename_i data
    rw [if_neg data]
    exact ⟨[], .nil, rfl, onDevice_ledger (fun dev => dev.calm_handleChannelData _ _ _) run⟩

def aclHandle (acl : List UInt8) : Option UInt16 :=
  match load16 acl 0 with
  | .ok word => some (hciConHandle (le16toh word))
  | .error _ => none

def commandHandle (data : List UInt8) : Option UInt16 :=
  match load16 (data.drop hciCmdHdrSize) 0 with
  | .ok word => some (le16toh word)
  | .error _ => none

def commandOpcode (data : List UInt8) : Option UInt16 :=
  match load16 data 0 with
  | .ok word => some (le16toh word)
  | .error _ => none

/-- The fake Wiimote that a packet with this handle is for. -/
def owner (core : Core) (handle : Option UInt16) : Option WiimoteId :=
  handle.bind (getFakeWiimoteForHciConHandle core)

theorem owner_isConnected {core : Core} {handle : Option UInt16} {w : WiimoteId}
    (found : owner core handle = some w) : (core.links w).isConnected = true := by
  obtain ⟨h, -, found⟩ := Option.bind_eq_some_iff.mp found
  exact (getFakeWiimote_connected found).1

theorem owner_connected {core : Core} {handle : Option UInt16} {w : WiimoteId}
    (found : owner core handle = some w) :
    (core.links w).active = true ∧ (core.links w).basebandState = .complete := by
  simpa [Link.isConnected] using owner_isConnected found

/-- A command that neither answers a Connection Request of a fake Wiimote nor resets. -/
structure Unanswering (core : Core) (data : List UInt8) : Prop where
  accept : addressed hciCmdAcceptCon core data = none
  reject : addressed hciCmdRejectCon core data = none
  reset : commandOpcode data ≠ some hciCmdReset

inductive Moves (s : World) : Input → List Label → Prop
  | accept {data : List UInt8} {w : WiimoteId} {events : List Label} :
      addressed hciCmdAcceptCon s.core data = some w → EventsOnly events →
      Moves s (.hciCommand data) (events ++ [.accept w])
  | reject {data : List UInt8} {w : WiimoteId} {placed : Bool} :
      addressed hciCmdRejectCon s.core data = some w →
      Moves s (.hciCommand data) [.disconnect w placed]
  | disconnect {data : List UInt8} {w : WiimoteId} {placed : Bool} {events : List Label} :
      commandOpcode data = some hciCmdDisconnect → owner s.core (commandHandle data) = some w →
      EventsOnly events → Moves s (.hciCommand data) (events ++ [.disconnect w placed])
  | reset {data : List UInt8} : commandOpcode data = some hciCmdReset →
      Moves s (.hciCommand data) [.forget 0, .forget 1, .reset]
  | answer {data : List UInt8} {events : List Label} : Unanswering s.core data →
      EventsOnly events → Moves s (.hciCommand data) events
  | forward {data : List UInt8} {events : List Label} {hci : HciState} :
      Unanswering s.core data → EventsOnly events →
      Moves s (.hciCommand data) (events ++ [.snoop hci])
  | consume {data : List UInt8} {w : WiimoteId} {disconnects : List Label} :
      owner s.core (aclHandle data) = some w → Disconnects w disconnects →
      disconnects.length = aclFailedResponses data →
      Moves s (.aclOut data) (.consume w :: disconnects)
  | translate {data : List UInt8} : owner s.core (aclHandle data) = none →
      Moves s (.aclOut data) []
  | bufferRequest {ep : EndpointId} {msg : IpcMessage} : Moves s (.bufferRequest ep msg) []
  | bulkInReply {retval : Int} {written : List UInt8} :
      Moves s (.handDownReply .bulkIn retval written) []
  | intrReply {retval : Int} {written tracked : List UInt8} {hci : HciState} {placed : Bool} :
      Moves s (.handDownReply .intr retval written)
        [.reply retval (s.intr.filled written) tracked hci placed]
  | timer {events : List EgcEvent} {labels : List Label} {placed : Bool} :
      (∀ label ∈ labels, TimerMove label) →
      Moves s (.timer events) (labels ++ [.credit placed])

theorem snoopHciCmd_kept {hci after : HciState} {opcode : UInt16} {data forwarded : List UInt8}
    (other : opcode ≠ hciCmdReset) (run : snoopHciCmd hci opcode data = .ok (after, forwarded)) :
    after.table = hci.table ∧ after.allocated = hci.allocated ∧
      after.lastHciVirtConHandle = hci.lastHciVirtConHandle := by
  unfold snoopHciCmd at run
  split at run
  · cases run
  · split at run
    · cases scan : load8 data hciCmdHdrSize with
      | error fault => simp [scan, bind, Except.bind] at run
      | ok scanEnable =>
          rw [scan] at run
          cases run
          exact ⟨rfl, rfl, rfl⟩
    · split at run
      · cases unit : loadBytes data hciCmdHdrSize hciClassSize with
        | error fault => simp [unit, bind, Except.bind] at run
        | ok uclass =>
            rw [unit] at run
            cases run
            exact ⟨rfl, rfl, rfl⟩
      · split at run
        · cases read : load8 data (hciCmdHdrSize + 6) with
          | error fault => simp [read, bind, Except.bind] at run
          | ok readAll =>
              rw [read] at run
              cases run
              exact ⟨rfl, rfl, rfl⟩
        · split at run
          · cases run
          · split at run
            · cases translated : translateToPhys hci.table data hciCmdHdrSize with
              | error fault => simp [translated, bind, Except.bind] at run
              | ok bytes =>
                  rw [translated] at run
                  cases run
                  exact ⟨rfl, rfl, rfl⟩
            · cases run
              exact ⟨rfl, rfl, rfl⟩

theorem snoopHciCmd_reset {hci after : HciState} {data forwarded : List UInt8}
    (run : snoopHciCmd hci hciCmdReset data = .ok (after, forwarded)) :
    after = hciStateReset hci := by
  cases run
  rfl

theorem informs_managed {opcode : UInt16} (payload : List UInt8)
    (disconnect : opcode ≠ hciCmdDisconnect) (accept : opcode ≠ hciCmdAcceptCon)
    (reject : opcode ≠ hciCmdRejectCon) (reset : opcode ≠ hciCmdReset) :
    Informs (fakeWiimoteMgrHandleHciCmdFromHost opcode payload) := by
  obtain ⟨packetType, auth, name, features, version, clock, sniff, policy, keys, timeout⟩ :=
    informs_handlers payload
  unfold fakeWiimoteMgrHandleHciCmdFromHost
  rw [if_neg disconnect, if_neg accept, if_neg reject]
  refine .ite packetType (.ite auth (.ite name (.ite features (.ite version (.ite clock
    (.ite sniff (.ite policy ?_)))))))
  rw [if_neg reset]
  exact .ite keys (.ite timeout (.pure _))

theorem addressed_opcode {opcode : UInt16} {core : Core} {data : List UInt8} {w : WiimoteId}
    (found : addressed opcode core data = some w) : commandOpcode data = some opcode := by
  unfold addressed at found
  unfold commandOpcode
  split at found
  · rename_i word bdaddr loaded at_
    rw [loaded]
    split at found
    · rename_i same
      exact congrArg some same
    · cases found
  · cases found

theorem addressed_other {core : Core} {data : List UInt8} {word opcode : UInt16}
    (loaded : load16 data 0 = .ok word) (other : le16toh word ≠ opcode) :
    addressed opcode core data = none := by
  unfold addressed
  rw [loaded]
  split
  · rename_i same bdaddr
    cases same
    rw [if_neg other]
  · rfl

theorem handleAcceptCon_path {s t : World} {payload : List UInt8} {handled : Bool}
    (run : handleAcceptCon payload s = .ok (handled, t)) :
    ∃ bdaddr, loadBdaddr payload 0 = .ok bdaddr ∧
      ((∃ w events, handled = true ∧ doesBdaddrBelongToFakeWiimote s.core bdaddr = some w ∧
        EventsOnly events ∧ s.ledger.Path (events ++ [.accept w]) t.ledger) ∨
      (handled = false ∧ doesBdaddrBelongToFakeWiimote s.core bdaddr = none ∧ s = t)) := by
  obtain ⟨bdaddr, s1, first, run⟩ := bind_ok.mp run
  obtain ⟨loaded, rfl⟩ := lift_ok.mp first
  obtain ⟨role, s2, second, run⟩ := bind_ok.mp run
  obtain ⟨-, rfl⟩ := lift_ok.mp second
  obtain ⟨_, _, got, run⟩ := bind_ok.mp run
  cases got
  refine ⟨bdaddr, loaded, ?_⟩
  rcases found : doesBdaddrBelongToFakeWiimote s.core bdaddr with _ | w
  · rw [found] at run
    cases run
    exact Or.inr ⟨rfl, rfl, rfl⟩
  · rw [found] at run
    obtain ⟨_, s3, accepted, run⟩ := bind_ok.mp run
    cases run
    obtain ⟨events, only, path⟩ := fakeWiimoteHandleHciCmdAcceptCon_path accepted
    exact Or.inl ⟨w, events, rfl, rfl, only, path⟩

theorem handleRejectCon_path {s t : World} {payload : List UInt8} {handled : Bool}
    (run : handleRejectCon payload s = .ok (handled, t)) :
    ∃ bdaddr, loadBdaddr payload 0 = .ok bdaddr ∧
      ((∃ w placed, handled = true ∧ doesBdaddrBelongToFakeWiimote s.core bdaddr = some w ∧
        s.ledger.Path [.disconnect w placed] t.ledger) ∨
      (handled = false ∧ doesBdaddrBelongToFakeWiimote s.core bdaddr = none ∧ s = t)) := by
  obtain ⟨bdaddr, s1, first, run⟩ := bind_ok.mp run
  obtain ⟨loaded, rfl⟩ := lift_ok.mp first
  obtain ⟨_, _, got, run⟩ := bind_ok.mp run
  cases got
  refine ⟨bdaddr, loaded, ?_⟩
  rcases found : doesBdaddrBelongToFakeWiimote s.core bdaddr with _ | w
  · rw [found] at run
    cases run
    exact Or.inr ⟨rfl, rfl, rfl⟩
  · rw [found] at run
    obtain ⟨ret, s2, disconnected, run⟩ := bind_ok.mp run
    cases run
    obtain ⟨placed, moved⟩ := fakeWiimoteDisconnect_ledger disconnected
    exact Or.inl ⟨w, placed, rfl, rfl, trivial, moved⟩

theorem handleDisconnect_path {s t : World} {payload : List UInt8} {handled : Bool}
    (run : handleDisconnect payload s = .ok (handled, t)) :
    ∃ handle, load16 payload 0 = .ok handle ∧
      ((∃ w placed events, handled = true ∧
        getFakeWiimoteForHciConHandle s.core (le16toh handle) = some w ∧ EventsOnly events ∧
        s.ledger.Path (events ++ [.disconnect w placed]) t.ledger) ∨
      handled = false ∧ s = t) := by
  obtain ⟨handle, s1, first, run⟩ := bind_ok.mp run
  obtain ⟨loaded, rfl⟩ := lift_ok.mp first
  obtain ⟨_, _, got, run⟩ := bind_ok.mp run
  cases got
  refine ⟨handle, loaded, ?_⟩
  rcases found : getFakeWiimoteForHciConHandle s.core (le16toh handle) with _ | w
  · rw [found] at run
    cases run
    exact Or.inr ⟨rfl, rfl⟩
  · rw [found] at run
    obtain ⟨status, s2, answered, run⟩ := bind_ok.mp run
    obtain ⟨_, s3, asserted, run⟩ := bind_ok.mp run
    obtain ⟨-, rfl⟩ := assertInjected_ok asserted
    obtain ⟨ret, s4, disconnected, run⟩ := bind_ok.mp run
    cases run
    obtain ⟨events, only, path⟩ := commandStatus_informs _ _ _ _ answered
    obtain ⟨placed, moved⟩ := fakeWiimoteDisconnect_ledger disconnected
    exact Or.inl ⟨w, placed, events, rfl, rfl, only, path.append ⟨trivial, moved⟩⟩

theorem handleReset_path {s t : World} {handled : Bool}
    (run : handleReset s = .ok (handled, t)) :
    handled = false ∧ s.ledger.Path [.forget 0, .forget 1] t.ledger := by
  obtain ⟨_, s1, first, run⟩ := bind_ok.mp run
  obtain ⟨_, s2, second, run⟩ := bind_ok.mp run
  cases run
  refine ⟨rfl, trivial, trivial, ?_⟩
  change t.ledger = _
  rw [resetFakeWiimote_ledger second, resetFakeWiimote_ledger first]

theorem hciCommand_moves {s t : World} {data : List UInt8} {result : Bool × List UInt8}
    (run : hciStateHandleHciCmdFromHost data s = .ok (result, t)) :
    ∃ labels, Moves s (.hciCommand data) labels ∧ s.ledger.Path labels t.ledger := by
  obtain ⟨word, s1, first, run⟩ := bind_ok.mp run
  obtain ⟨loaded, rfl⟩ := lift_ok.mp first
  have opcode : commandOpcode data = some (le16toh word) := by simp [commandOpcode, loaded]
  obtain ⟨handled, s2, managed, run⟩ := bind_ok.mp run
  -- What follows when no fake Wiimote handled the command.
  have forwarded (unhandled : handled = false) (unanswering : Unanswering s.core data)
      {events : List Label} (only : EventsOnly events) (path : s.ledger.Path events s2.ledger) :
      ∃ labels, Moves s (.hciCommand data) labels ∧ s.ledger.Path labels t.ledger := by
    have other : le16toh word ≠ hciCmdReset := fun same =>
      unanswering.reset (opcode.trans (by rw [same]))
    rw [unhandled] at run
    obtain ⟨_, _, got, run⟩ := bind_ok.mp run
    cases got
    obtain ⟨⟨hci, bytes⟩, s3, snooped, run⟩ := bind_ok.mp run
    obtain ⟨snoop, rfl⟩ := lift_ok.mp snooped
    cases run
    exact ⟨_, .forward unanswering only, path.append ⟨snoopHciCmd_kept other snoop, rfl⟩⟩
  have answered (done : handled = true) : s2 = t := by
    rw [done] at run
    cases run
    rfl
  by_cases disconnect : le16toh word = hciCmdDisconnect
  · unfold fakeWiimoteMgrHandleHciCmdFromHost at managed
    rw [if_pos disconnect] at managed
    obtain ⟨handle, handleAt, ⟨w, placed, events, done, found, only, path⟩ | ⟨unhandled, rfl⟩⟩ :=
      handleDisconnect_path managed
    · rw [answered done] at path
      refine ⟨_, .disconnect (opcode.trans (by rw [disconnect])) ?_ only, path⟩
      simp only [owner, commandHandle, handleAt, Option.bind_some]
      exact found
    · refine forwarded unhandled ⟨?_, ?_, ?_⟩ .nil rfl
      · exact addressed_other loaded (by rw [disconnect]; decide)
      · exact addressed_other loaded (by rw [disconnect]; decide)
      · rw [opcode, disconnect]
        decide
  · by_cases accept : le16toh word = hciCmdAcceptCon
    · unfold fakeWiimoteMgrHandleHciCmdFromHost at managed
      rw [if_neg disconnect, if_pos accept] at managed
      obtain ⟨bdaddr, bdaddrAt, ⟨w, events, done, found, only, path⟩ | ⟨unhandled, none, rfl⟩⟩ :=
        handleAcceptCon_path managed
      · rw [answered done] at path
        refine ⟨_, .accept ?_ only, path⟩
        simp only [addressed, loaded, bdaddrAt, if_pos accept]
        exact found
      · refine forwarded unhandled ⟨?_, ?_, ?_⟩ .nil rfl
        · simp only [addressed, loaded, bdaddrAt, if_pos accept]
          exact none
        · exact addressed_other loaded (by rw [accept]; decide)
        · rw [opcode, accept]
          decide
    · by_cases reject : le16toh word = hciCmdRejectCon
      · unfold fakeWiimoteMgrHandleHciCmdFromHost at managed
        rw [if_neg disconnect, if_neg accept, if_pos reject] at managed
        obtain ⟨bdaddr, bdaddrAt, ⟨w, placed, done, found, path⟩ | ⟨unhandled, none, rfl⟩⟩ :=
          handleRejectCon_path managed
        · rw [answered done] at path
          refine ⟨_, .reject ?_, path⟩
          simp only [addressed, loaded, bdaddrAt, if_pos reject]
          exact found
        · refine forwarded unhandled ⟨?_, ?_, ?_⟩ .nil rfl
          · exact addressed_other loaded accept
          · simp only [addressed, loaded, bdaddrAt, if_pos reject]
            exact none
          · rw [opcode, reject]
            decide
      · by_cases reset : le16toh word = hciCmdReset
        · rw [reset] at managed
          change handleReset s = _ at managed
          obtain ⟨unhandled, path⟩ := handleReset_path managed
          rw [unhandled, reset] at run
          obtain ⟨_, _, got, run⟩ := bind_ok.mp run
          cases got
          obtain ⟨⟨hci, bytes⟩, s3, snooped, run⟩ := bind_ok.mp run
          obtain ⟨snoop, rfl⟩ := lift_ok.mp snooped
          cases run
          have forgot : s2.ledger.Path [.reset]
              (World.ledger { s2 with core := { s2.core with hci } }) := by
            refine ⟨trivial, ?_⟩
            rw [snoopHciCmd_reset snoop]
            rfl
          exact ⟨_, .reset (opcode.trans (by rw [reset])), path.append forgot⟩
        · obtain ⟨events, only, path⟩ :=
            informs_managed _ disconnect accept reject reset _ _ _ managed
          have unanswering : Unanswering s.core data :=
            ⟨addressed_other loaded accept, addressed_other loaded reject, by simp [opcode, reset]⟩
          cases handled with
          | false => exact forwarded rfl unanswering only path
          | true =>
              rw [answered rfl] at path
              exact ⟨_, .answer unanswering only, path⟩

theorem aclOut_moves {s t : World} {data : List UInt8} {result : Bool × List UInt8}
    (run : hciStateHandleAclDataOutRequestFromHost data s = .ok (result, t)) :
    ∃ labels, Moves s (.aclOut data) labels ∧ s.ledger.Path labels t.ledger := by
  obtain ⟨word, s1, first, run⟩ := bind_ok.mp run
  obtain ⟨loaded, rfl⟩ := lift_ok.mp first
  obtain ⟨handled, s2, managed, run⟩ := bind_ok.mp run
  obtain ⟨_, _, got, managed⟩ := bind_ok.mp managed
  cases got
  rcases found : getFakeWiimoteForHciConHandle s.core (hciConHandle (le16toh word)) with _ | w
  · rw [found] at managed
    cases managed
    obtain ⟨_, _, got, run⟩ := bind_ok.mp run
    cases got
    obtain ⟨bytes, s3, translated, run⟩ := bind_ok.mp run
    obtain ⟨-, rfl⟩ := lift_ok.mp translated
    cases run
    refine ⟨[], .translate ?_, rfl⟩
    simp only [owner, aclHandle, loaded, Option.bind_some]
    exact found
  · rw [found] at managed
    obtain ⟨_, s3, consumed, managed⟩ := bind_ok.mp managed
    cases managed
    cases run
    obtain ⟨labels, disconnects, length, path⟩ :=
      fakeWiimoteHandleAclDataOutRequestFromHost_path consumed
    refine ⟨_, .consume ?_ disconnects length, (getFakeWiimote_connected found).1, path⟩
    simp only [owner, aclHandle, loaded, Option.bind_some]
    exact found

theorem bufferRequest_ledger {s t : World} {ep : EndpointId} {msg : IpcMessage} {u : Unit}
    (run : handleBufferRequest ep msg s = .ok (u, t)) : t.ledger = s.ledger := by
  obtain ⟨_, _, got, run⟩ := bind_ok.mp run
  cases got
  obtain ⟨⟨e, out⟩, s1, received, run⟩ := bind_ok.mp run
  obtain ⟨taken, rfl⟩ := lift_ok.mp received
  cases ep with
  | bulkIn =>
      cases run
      rfl
  | intr =>
      cases run
      have produced : e.produced = s.intr.produced := by
        rcases Endpoint.receiveMessage_cases taken with ⟨_, _, _, -, rfl⟩ | ⟨-, -, -, rfl⟩ |
          ⟨-, -, -, rfl⟩ | ⟨-, -, rfl⟩
        · simp [World.endpoint]
        · rfl
        · rfl
        · rfl
      simp only [World.ledger, produced]

theorem resourceReply_produced (e : Endpoint) (retval : Int) (buffer : List UInt8) :
    (e.resourceReply retval buffer).1.produced =
      if (e.resourceReply retval buffer).2 = .iosOk then
        e.produced ++ [Endpoint.handDownContent retval buffer]
      else e.produced :=
  ready_produced _ .handDown

theorem handDownReply_moves {s t : World} {ep : EndpointId} {retval : Int}
    {written : List UInt8} {u : Unit}
    (run : oh1ResourceReply ep retval written s = .ok (u, t)) :
    ∃ labels, Moves s (.handDownReply ep retval written) labels ∧
      s.ledger.Path labels t.ledger := by
  obtain ⟨_, _, got, run⟩ := bind_ok.mp run
  cases got
  obtain ⟨tracked, s1, tracking, run⟩ := bind_ok.mp run
  cases ep with
  | bulkIn =>
      refine ⟨[], .bulkInReply, ?_⟩
      have same : s = s1 := by
        unfold trackReply at tracking
        split at tracking
        · obtain ⟨_, _, got, tracking⟩ := bind_ok.mp tracking
          cases got
          exact (lift_ok.mp tracking).2
        · cases tracking
          rfl
      cases run
      rw [same]
      rfl
  | intr =>
      have changed : ∃ hci, s1 = { s with core := { s.core with hci := hci } } ∧
          s.ledger.Enabled (.reply retval (s.intr.filled written) tracked hci true) := by
        unfold trackReply at tracking
        split at tracking
        · rename_i positive
          obtain ⟨_, _, got, tracking⟩ := bind_ok.mp tracking
          cases got
          obtain ⟨⟨hci, bytes⟩, s2, translated, tracking⟩ := bind_ok.mp tracking
          obtain ⟨handled, rfl⟩ := lift_ok.mp translated
          cases tracking
          refine ⟨hci, rfl, ?_⟩
          simp only [Enabled, if_pos positive]
          exact handled
        · rename_i negative
          cases tracking
          refine ⟨s.core.hci, rfl, ?_⟩
          simp only [Enabled, if_neg negative]
          exact ⟨rfl, rfl⟩
      obtain ⟨hci, rfl, enabled⟩ := changed
      cases run
      refine ⟨[.reply retval (s.intr.filled written) tracked hci
        ((s.intr.resourceReply retval tracked).2 = .iosOk)], .intrReply, enabled, ?_⟩
      change World.ledger _ = _
      simp only [World.ledger, act, resourceReply_produced, decide_eq_true_eq]

theorem step_moves {s t : World} {input : Input} (run : step s input = .ok t) :
    ∃ labels, Moves s input labels ∧ s.ledger.Path labels t.ledger := by
  unfold step at run
  cases handled : handleInput input s with
  | error fault =>
      rw [handled] at run
      cases run
  | ok result =>
      obtain ⟨u, after⟩ := result
      rw [handled] at run
      cases run
      cases input with
      | hciCommand data =>
          obtain ⟨result, s1, first, last⟩ := bind_ok.mp handled
          cases last
          exact hciCommand_moves first
      | aclOut data =>
          obtain ⟨result, s1, first, last⟩ := bind_ok.mp handled
          cases last
          exact aclOut_moves first
      | bufferRequest ep msg => exact ⟨[], .bufferRequest, bufferRequest_ledger handled⟩
      | handDownReply ep retval written => exact handDownReply_moves handled
      | timer events =>
          obtain ⟨labels, placed, moves, path⟩ := periodicTimer_path handled
          exact ⟨_, .timer moves, path⟩

end Fakemote
