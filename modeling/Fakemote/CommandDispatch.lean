import Fakemote.ControllerEvents
import Fakemote.Runs

/-! The two dispatchers of the host's commands. `hci_state` translates the handle of 37 commands;
`fake_wiimote_mgr` answers nine of them for a fake Wiimote. -/

namespace Fakemote

open Bytes Program Ledger Transition

/-- IOS has memory for the next `count` injected events, and the host's requests or the ReadyQ
take them. -/
structure CanInject (s : World) (count : Nat) : Prop where
  memory : ∀ i < count, (s.periphery.heap.outcome (s.periphery.heap.calls + i)).isSome
  room : ∀ i < count - s.intr.pendingQ.length,
    s.intr.readyQ.length + i < s.intr.readyCap ∧ s.intr.refuse (s.intr.sends + i) = false

structure Injected (s t : World) : Prop where
  core : t.core = s.core
  more : s.events.length < t.events.length
  next : ∀ count, CanInject t count ↔ CanInject s (count + 1)

theorem forall_lt_succ {p : Nat → Prop} {count : Nat} :
    (∀ i < count + 1, p i) ↔ p 0 ∧ ∀ i < count, p (i + 1) := by
  constructor
  · intro all
    exact ⟨all 0 (Nat.succ_pos _), fun i bound => all (i + 1) (Nat.succ_lt_succ bound)⟩
  · rintro ⟨first, rest⟩ i bound
    cases i with
    | zero => exact first
    | succ i => exact rest i (Nat.lt_of_succ_lt_succ bound)

theorem canInject_succ {s t : World} {count : Nat}
    (outcome : t.periphery.heap.outcome = s.periphery.heap.outcome)
    (calls : t.periphery.heap.calls = s.periphery.heap.calls + 1)
    (memory : (s.periphery.heap.outcome s.periphery.heap.calls).isSome)
    (room : (∀ i < count - t.intr.pendingQ.length,
        t.intr.readyQ.length + i < t.intr.readyCap ∧ t.intr.refuse (t.intr.sends + i) = false) ↔
      ∀ i < count + 1 - s.intr.pendingQ.length,
        s.intr.readyQ.length + i < s.intr.readyCap ∧
          s.intr.refuse (s.intr.sends + i) = false) :
    CanInject t count ↔ CanInject s (count + 1) := by
  have shifted : (∀ i < count, (t.periphery.heap.outcome (t.periphery.heap.calls + i)).isSome) ↔
      ∀ i < count + 1, (s.periphery.heap.outcome (s.periphery.heap.calls + i)).isSome := by
    rw [forall_lt_succ, outcome, calls]
    constructor
    · intro later
      refine ⟨memory, fun i bound => ?_⟩
      rw [Nat.add_comm i 1, ← Nat.add_assoc]
      exact later i bound
    · rintro ⟨-, later⟩ i bound
      rw [Nat.add_assoc, Nat.add_comm 1 i]
      exact later i bound
  constructor
  · rintro ⟨one, two⟩
    exact ⟨shifted.mp one, room.mp two⟩
  · rintro ⟨one, two⟩
    exact ⟨shifted.mpr one, room.mpr two⟩

theorem injectHciEvent_run (s : World) (event eventSize : UInt8) (fields : List UInt8)
    (fits : fields.length ≤ eventSize.toNat) :
    ∃ ret t, injectHciEvent event eventSize fields s = .ok (ret, t) ∧
      (ret = .iosOk ↔ CanInject s 1) ∧ (ret = .iosOk → Injected s t) := by
  have size : (UInt16.ofNat (hciEventHdrSize + eventSize.toNat)).toNat = 2 + eventSize.toNat := by
    have bound := eventSize.toNat_lt
    rw [UInt16.toNat_ofNat']
    exact Nat.mod_eq_of_lt (by simp only [hciEventHdrSize]; omega)
  rcases outcome : s.periphery.heap.outcome s.periphery.heap.calls with _ | junk
  · refine ⟨.iosEnomem, ?_⟩
    simp only [injectHciEvent, bind_run (get_run s), inject, Heap.injmessageAlloc, outcome]
    refine ⟨_, rfl, ?_, ?_⟩
    · constructor
      · intro ok
        cases ok
      · intro can
        have memory := can.memory 0 Nat.zero_lt_one
        rw [Nat.add_zero, outcome] at memory
        cases memory
    · intro ok
      cases ok
  · have memory : (s.periphery.heap.outcome s.periphery.heap.calls).isSome := by
      rw [outcome]
      rfl
    let msg : InjMessage := ⟨s.periphery.heap.calls, [event, eventSize] ++ fields ++
      ((List.range (2 + eventSize.toNat)).map junk).drop ([event, eventSize] ++ fields).length⟩
    have filled : inject s.periphery.heap s.intr (hciEventMsg event eventSize fields) =
        .ok ⟨{ s.periphery.heap with
              calls := s.periphery.heap.calls + 1
              blocks := s.periphery.heap.blocks ++ [s.periphery.heap.calls] },
          (s.intr.handleBulkIntrReadyMessage (.injected msg)).1, msg.data,
          (s.intr.handleBulkIntrReadyMessage (.injected msg)).2⟩ := by
      have enough : ([event, eventSize] ++ fields).length ≤ 2 + eventSize.toNat := by
        simp only [List.length_append, List.length_cons, List.length_nil]
        omega
      simp only [inject, Heap.injmessageAlloc, outcome, hciEventMsg, size, fillMessage, bind,
        Except.bind, List.length_map, List.length_range, if_pos enough]
      rfl
    refine ⟨(s.intr.handleBulkIntrReadyMessage (.injected msg)).2, _,
      (bind_run (get_run s)).trans (by rw [filled]; rfl), ?_⟩
    rcases pending : s.intr.pendingQ with _ | ⟨request, rest⟩
    · by_cases room : s.intr.readyQ.length < s.intr.readyCap ∧
          s.intr.refuse s.intr.sends = false
      · have sent : s.intr.handleBulkIntrReadyMessage (.injected msg) =
            ({ s.intr with
                readyQ := s.intr.readyQ ++ [.injected msg]
                sends := s.intr.sends + 1
                produced := s.intr.produced ++ [s.intr.content (.injected msg)] }, .iosOk) := by
          simp only [Endpoint.handleBulkIntrReadyMessage, pending, Endpoint.sendReady, if_pos room]
        rw [sent]
        refine ⟨⟨fun _ => ⟨?_, ?_⟩, fun _ => rfl⟩, fun _ => ⟨rfl, ?_, ?_⟩⟩
        · intro i bound
          rw [Nat.lt_one_iff.mp bound]
          exact memory
        · intro i bound
          simp only [pending, List.length_nil, Nat.sub_zero, Nat.lt_one_iff] at bound
          subst bound
          exact room
        · simp
        · intro count
          refine canInject_succ rfl rfl memory ?_
          simp only [pending, List.length_nil, Nat.sub_zero, List.length_append,
            List.length_singleton]
          rw [forall_lt_succ]
          constructor
          · intro later
            refine ⟨room, fun i bound => ?_⟩
            have next := later i bound
            rwa [Nat.add_assoc, Nat.add_assoc, Nat.add_comm 1 i] at next
          · rintro ⟨-, later⟩ i bound
            have next := later i bound
            rwa [Nat.add_assoc, Nat.add_assoc, Nat.add_comm 1 i]
      · have failed : s.intr.handleBulkIntrReadyMessage (.injected msg) =
            ({ s.intr with
                sends := s.intr.sends + 1
                dropped := s.intr.dropped ++ [.message (.injected msg)] }, .iosEqueueFull) := by
          simp only [Endpoint.handleBulkIntrReadyMessage, pending, Endpoint.sendReady, if_neg room]
        rw [failed]
        refine ⟨⟨fun ok => (by cases ok), fun can => ?_⟩, fun ok => (by cases ok)⟩
        exact absurd (can.room 0 (by simp [pending])) (by simpa using room)
    · have acked : (s.intr.handleBulkIntrReadyMessage (.injected msg)).2 = .iosOk := by
        simp only [Endpoint.handleBulkIntrReadyMessage, pending]
        rfl
      refine ⟨⟨fun _ => ⟨?_, ?_⟩, fun _ => acked⟩, fun _ => ⟨rfl, ?_, ?_⟩⟩
      · intro i bound
        rw [Nat.lt_one_iff.mp bound]
        exact memory
      · intro i bound
        simp [pending] at bound
      · simp [acked]
      · intro count
        refine canInject_succ rfl rfl memory ?_
        simp only [Endpoint.handleBulkIntrReadyMessage, pending, Endpoint.ack_pendingQ,
          Endpoint.ack_readyQ, List.length_cons, Nat.add_sub_add_right]
        rfl

theorem assertInjected_run {s t : World} {ret : IosResult} {u : Unit} :
    assertInjected ret s = .ok (u, t) ↔ ret = .iosOk ∧ t = s := by
  constructor
  · intro run
    obtain ⟨ok, same⟩ := assertInjected_ok run
    exact ⟨ok, same.symm⟩
  · rintro ⟨rfl, rfl⟩
    rfl

theorem assertedEvent_run (s : World) (event eventSize : UInt8) (fields : List UInt8)
    (fits : fields.length ≤ eventSize.toNat) :
    (∀ u t, (injectHciEvent event eventSize fields >>= assertInjected) s = .ok (u, t) →
      CanInject s 1 ∧ Injected s t) ∧
    (CanInject s 1 → ∃ t,
      (injectHciEvent event eventSize fields >>= assertInjected) s = .ok ((), t)) := by
  obtain ⟨ret, t, run, can, injected⟩ := injectHciEvent_run s event eventSize fields fits
  constructor
  · intro u v both
    obtain ⟨_, _, first, last⟩ := bind_ok.mp both
    rw [run] at first
    cases first
    obtain ⟨ok, rfl⟩ := assertInjected_run.mp last
    exact ⟨can.mp ok, injected ok⟩
  · intro possible
    refine ⟨t, (bind_run run).trans ?_⟩
    rw [can.mpr possible]
    rfl

/-- A program that ends exactly when it can inject its events, and then has. -/
def InjectsAll (count : Nat) (m : M Unit) : Prop :=
  ∀ s, (∀ u t, m s = .ok (u, t) → CanInject s count ∧ s.events.length < t.events.length) ∧
    (CanInject s count → ∃ t, m s = .ok ((), t))

theorem injectsAll_one {event eventSize : UInt8} {fields : List UInt8}
    (fits : fields.length ≤ eventSize.toNat) :
    InjectsAll 1 (injectHciEvent event eventSize fields >>= assertInjected) := by
  intro s
  have one := assertedEvent_run s event eventSize fields fits
  exact ⟨fun u t run => ⟨(one.1 u t run).1, (one.1 u t run).2.more⟩, one.2⟩

theorem injectsAll_two {opcode : UInt16} {event eventSize : UInt8} {fields : List UInt8}
    (fits : fields.length ≤ eventSize.toNat) :
    InjectsAll 2 (answerWithStatus opcode (injectHciEvent event eventSize fields)) := by
  intro s
  have status := assertedEvent_run s hciEventCommandStatus 4
    ([0, 1] ++ bytes16 (htole16 opcode)) (by simp [bytes16])
  have split : answerWithStatus opcode (injectHciEvent event eventSize fields) s =
      ((injectHciEventCommandStatus opcode >>= assertInjected) >>= fun _ =>
        injectHciEvent event eventSize fields >>= assertInjected) s := by
    unfold answerWithStatus
    rw [bind_assoc]
  rw [split]
  constructor
  · intro u v run
    obtain ⟨_, t, first, last⟩ := bind_ok.mp run
    have informed := status.1 _ _ first
    have answered := (assertedEvent_run t event eventSize fields fits).1 _ _ last
    exact ⟨(informed.2.next 1).mp answered.1, Nat.lt_trans informed.2.more answered.2.more⟩
  · intro can
    have one : CanInject s 1 :=
      ⟨fun i bound => can.memory i (by omega), fun i bound => can.room i (by omega)⟩
    obtain ⟨t, first⟩ := status.2 one
    have informed := status.1 _ _ first
    obtain ⟨v, last⟩ := (assertedEvent_run t event eventSize fields fits).2
      ((informed.2.next 1).mpr can)
    exact ⟨v, (bind_run first).trans last⟩

/-- A handler that answers: it says that a fake Wiimote was meant, and the host gets an event. -/
def Answered (s : World) (handler : M Bool) : Prop :=
  ∃ t, handler s = .ok (true, t) ∧ s.events.length < t.events.length

theorem answerForHandle_answered {s : World} {handle : UInt16} {w : WiimoteId} {answer : M Unit}
    {count : Nat} (found : getFakeWiimoteForHciConHandle s.core handle = some w)
    (injects : InjectsAll count answer) :
    Answered s (answerForHandle handle answer) ↔ CanInject s count := by
  have reduced : answerForHandle handle answer s = (answer >>= fun _ => pure true) s := by
    unfold answerForHandle
    rw [bind_run (get_run s)]
    simp only [found]
  unfold Answered
  rw [reduced]
  constructor
  · rintro ⟨t, run, -⟩
    obtain ⟨u, v, first, -⟩ := bind_ok.mp run
    exact ((injects s).1 u v first).1
  · intro can
    obtain ⟨t, run⟩ := (injects s).2 can
    exact ⟨t, bind_run run, ((injects s).1 _ _ run).2⟩

theorem answerForHandle_loads {s : World} {handle : UInt16} {w : WiimoteId} {payload : List UInt8}
    {answer : UInt16 → M Unit} {count : Nat}
    (found : getFakeWiimoteForHciConHandle s.core handle = some w)
    (injects : ∀ word, InjectsAll count (answer word)) :
    Answered s (answerForHandle handle (liftM (load16 payload 2) >>= answer)) ↔
      4 ≤ payload.length ∧ CanInject s count := by
  by_cases long : 4 ≤ payload.length
  · have room : 2 + 2 ≤ payload.length := long
    obtain ⟨word, loaded⟩ := load16_some room
    have read : load16 payload 2 = .ok word := load16_ok.mpr loaded
    have same : ((liftM (load16 payload 2) : M UInt16) >>= answer) = answer word := by
      funext s
      rw [read]
      exact bind_run (lift_run_ok word s)
    rw [same, answerForHandle_answered found (injects word)]
    exact ⟨fun can => ⟨long, can⟩, fun both => both.2⟩
  · constructor
    · rintro ⟨t, run, -⟩
      obtain ⟨_, _, got, run⟩ := bind_ok.mp run
      cases got
      simp only [found] at run
      obtain ⟨_, _, first, -⟩ := bind_ok.mp run
      obtain ⟨word, _, read, -⟩ := bind_ok.mp first
      exact absurd (load16_room (load16_ok.mp (lift_ok.mp read).1)) long
    · exact fun both => absurd both.1 long

theorem releaseInputDevice_run (d : Option SlotId) (s : World) :
    ∃ t, releaseInputDevice d s = .ok ((), t) ∧ t.events = s.events := by
  cases d with
  | none => exact ⟨s, rfl, rfl⟩
  | some d => exact ⟨_, rfl, rfl⟩

theorem injectHciEvent_events {s t : World} {event eventSize : UInt8} {fields : List UInt8}
    {ret : IosResult} (run : injectHciEvent event eventSize fields s = .ok (ret, t)) :
    s.events.length ≤ t.events.length := by
  obtain ⟨rest, result, -⟩ := injectHciEvent_ledger run
  have events : t.events = (s.ledger.place event ([event, eventSize] ++ fields ++ rest)
      (ret = .iosOk)).events := congrArg Ledger.events result
  rw [events]
  unfold place
  split
  · simp [World.ledger]
  · exact Nat.le_refl _

theorem fakeWiimoteDisconnect_run (w : WiimoteId) (s : World) :
    ∃ ret t, fakeWiimoteDisconnect w s = .ok (ret, t) ∧ s.events.length ≤ t.events.length := by
  let inactive : World :=
    { s with core := s.core.setLink w fun link => { link with active := false } }
  obtain ⟨t, released, events⟩ :=
    releaseInputDevice_run (inactive.core.links w).inputDevice inactive
  have prefix_ : fakeWiimoteDisconnect w s =
      (if (inactive.core.links w).basebandState = .complete then
        injectHciEventDisconCompl (inactive.core.links w).hciConHandle 0 0x13
      else pure .iosOk : M IosResult) t := by
    unfold fakeWiimoteDisconnect
    rw [bind_run (t := inactive) (a := ()) rfl,
      bind_run (t := inactive) (a := inactive.core.links w) rfl, bind_run released]
  rw [prefix_]
  split
  · obtain ⟨ret, u, run, -⟩ := injectHciEvent_run t hciEventDisconCompl 4
      ([0] ++ bytes16 (htole16 (inactive.core.links w).hciConHandle) ++ [0x13])
      (by simp [bytes16])
    refine ⟨ret, u, run, ?_⟩
    rw [← show t.events = s.events from events]
    exact injectHciEvent_events run
  · refine ⟨.iosOk, t, rfl, ?_⟩
    exact Nat.le_of_eq (congrArg List.length events).symm

/-- The disconnection itself may lose its event. -/
theorem handleDisconnect_answered {s : World} {handle : UInt16} {w : WiimoteId}
    (found : getFakeWiimoteForHciConHandle s.core handle = some w) :
    Answered s (fakeWiimoteMgrHandleHciCmdDisconnect handle) ↔ CanInject s 1 := by
  have status := assertedEvent_run s hciEventCommandStatus 4
    ([0, 1] ++ bytes16 (htole16 hciCmdDisconnect)) (by simp [bytes16])
  have reduced : fakeWiimoteMgrHandleHciCmdDisconnect handle s =
      ((injectHciEventCommandStatus hciCmdDisconnect >>= assertInjected) >>= fun _ =>
        fakeWiimoteDisconnect w >>= fun _ => pure true) s := by
    unfold fakeWiimoteMgrHandleHciCmdDisconnect
    rw [bind_run (get_run s), bind_assoc]
    simp only [found]
  unfold Answered
  rw [reduced]
  constructor
  · rintro ⟨t, run, -⟩
    obtain ⟨u, v, first, -⟩ := bind_ok.mp run
    exact (status.1 u v first).1
  · intro can
    obtain ⟨t, first⟩ := status.2 can
    obtain ⟨ret, u, disconnected, events⟩ := fakeWiimoteDisconnect_run w t
    refine ⟨u, (bind_run first).trans (bind_run disconnected), ?_⟩
    exact Nat.lt_of_lt_of_le (status.1 _ _ first).2.more events

/-- The commands that `fake_wiimote_mgr` answers for a handle, with the bytes of the parameters
that it reads and the number of events that must succeed. -/
def managedCommands : List (UInt16 × Nat × Nat) :=
  [(hciCmdDisconnect, 2, 1), (hciCmdChangeConPacketType, 4, 2), (hciCmdAuthReq, 2, 2),
   (hciCmdReadRemoteFeatures, 2, 2), (hciCmdReadRemoteVerInfo, 2, 2),
   (hciCmdReadClockOffset, 2, 2), (hciCmdSniffMode, 4, 2), (hciCmdWriteLinkPolicySettings, 2, 1),
   (hciCmdWriteLinkSupervisionTimeout, 2, 1)]

def Answerable (s : World) (opcode : UInt16) (payload : List UInt8) : Prop :=
  ∃ bytes events, managedCommands.lookup opcode = some (bytes, events) ∧
    bytes ≤ payload.length ∧ CanInject s events

theorem answerable_iff {s : World} {opcode : UInt16} {payload : List UInt8} (bytes events : Nat)
    (listed : managedCommands.lookup opcode = some (bytes, events)) :
    Answerable s opcode payload ↔ bytes ≤ payload.length ∧ CanInject s events := by
  constructor
  · rintro ⟨_, _, found, both⟩
    rw [listed] at found
    cases found
    exact both
  · exact fun both => ⟨bytes, events, listed, both⟩

theorem load_answered {s : World} {payload : List UInt8} {word : UInt16}
    {rest : UInt16 → M Bool} (loaded : load16 payload 0 = .ok word) :
    Answered s (liftM (load16 payload 0) >>= rest) ↔ Answered s (rest word) := by
  have reduced : ((liftM (load16 payload 0) : M UInt16) >>= rest) s = rest word s := by
    rw [loaded]
    exact bind_run (lift_run_ok word s)
  unfold Answered
  rw [reduced]

/-- A command that is translated is answered exactly when it is one of the nine, its parameters
are there and IOS takes the events. -/
theorem manager_answers_iff {s : World} {opcode word : UInt16} {payload : List UInt8}
    {w : WiimoteId} (translated : opcode ∈ translatedCommands)
    (loaded : load16 payload 0 = .ok word)
    (found : getFakeWiimoteForHciConHandle s.core (le16toh word) = some w) :
    Answered s (fakeWiimoteMgrHandleHciCmdFromHost opcode payload) ↔
      Answerable s opcode payload := by
  have short : 2 ≤ payload.length := load16_room (load16_ok.mp loaded)
  have two (events : Nat) (listed : managedCommands.lookup opcode = some (2, events)) :
      CanInject s events ↔ Answerable s opcode payload := by
    rw [answerable_iff 2 events listed]
    exact ⟨fun can => ⟨short, can⟩, fun both => both.2⟩
  have untranslated (other : UInt16) (absent : other ∉ translatedCommands) : opcode ≠ other := by
    intro same
    rw [same] at translated
    exact absent translated
  unfold fakeWiimoteMgrHandleHciCmdFromHost
  by_cases disconnect : opcode = hciCmdDisconnect
  · rw [if_pos disconnect, ← two 1 (by rw [disconnect]; rfl), ← handleDisconnect_answered found]
    exact load_answered loaded
  rw [if_neg disconnect]
  rw [if_neg (untranslated hciCmdAcceptCon (by decide))]
  rw [if_neg (untranslated hciCmdRejectCon (by decide))]
  by_cases packetType : opcode = hciCmdChangeConPacketType
  · rw [if_pos packetType, answerable_iff 4 2 (by rw [packetType]; rfl)]
    refine (load_answered loaded).trans (answerForHandle_loads found fun pktType => ?_)
    exact injectsAll_two (by simp [bytes16])
  rw [if_neg packetType]
  by_cases auth : opcode = hciCmdAuthReq
  · rw [if_pos auth, ← two 2 (by rw [auth]; rfl)]
    exact (load_answered loaded).trans
      (answerForHandle_answered found (injectsAll_two (by simp [bytes16])))
  rw [if_neg auth]
  rw [if_neg (untranslated hciCmdRemoteNameReq (by decide))]
  by_cases features : opcode = hciCmdReadRemoteFeatures
  · rw [if_pos features, ← two 2 (by rw [features]; rfl)]
    exact (load_answered loaded).trans
      (answerForHandle_answered found (injectsAll_two (by simp [bytes16, wiimoteRemoteFeatures])))
  rw [if_neg features]
  by_cases version : opcode = hciCmdReadRemoteVerInfo
  · rw [if_pos version, ← two 2 (by rw [version]; rfl)]
    exact (load_answered loaded).trans
      (answerForHandle_answered found (injectsAll_two (by simp [bytes16])))
  rw [if_neg version]
  by_cases clock : opcode = hciCmdReadClockOffset
  · rw [if_pos clock, ← two 2 (by rw [clock]; rfl)]
    exact (load_answered loaded).trans
      (answerForHandle_answered found (injectsAll_two (by simp [bytes16])))
  rw [if_neg clock]
  by_cases sniff : opcode = hciCmdSniffMode
  · rw [if_pos sniff, answerable_iff 4 2 (by rw [sniff]; rfl)]
    refine (load_answered loaded).trans (answerForHandle_loads found fun interval => ?_)
    exact injectsAll_two (by simp [bytes16])
  rw [if_neg sniff]
  by_cases policy : opcode = hciCmdWriteLinkPolicySettings
  · rw [if_pos policy, ← two 1 (by rw [policy]; rfl)]
    exact (load_answered loaded).trans
      (answerForHandle_answered found (injectsAll_one (by simp [bytes16])))
  rw [if_neg policy]
  rw [if_neg (untranslated hciCmdReset (by decide))]
  rw [if_neg (untranslated hciCmdReadStoredLinkKey (by decide))]
  by_cases timeout : opcode = hciCmdWriteLinkSupervisionTimeout
  · rw [if_pos timeout, ← two 1 (by rw [timeout]; rfl)]
    exact (load_answered loaded).trans
      (answerForHandle_answered found (injectsAll_one (by simp [bytes16])))
  rw [if_neg timeout]
  constructor
  · rintro ⟨t, run, -⟩
    cases run
  · rintro ⟨bytes, events, listed, -⟩
    have unlisted : managedCommands.lookup opcode = none := by
      rw [List.lookup_eq_none_iff]
      simp [managedCommands, disconnect, packetType, auth, features, version, clock, sniff, policy,
        timeout]
    rw [unlisted] at listed
    cases listed

theorem step_hciCommand (s : World) (data : List UInt8) :
    step s (.hciCommand data) = (hciStateHandleHciCmdFromHost data s).map Prod.snd := by
  cases run : hciStateHandleHciCmdFromHost data s with
  | error fault =>
      have handled : handleInput (.hciCommand data) s = .error fault :=
        bind_error.mpr (Or.inl run)
      simp only [step, handled]
      rfl
  | ok result =>
      have handled : handleInput (.hciCommand data) s = .ok ((), result.2) := bind_run run
      simp only [step, handled]
      rfl

theorem step_aclOut (s : World) (data : List UInt8) :
    step s (.aclOut data) = (hciStateHandleAclDataOutRequestFromHost data s).map Prod.snd := by
  cases run : hciStateHandleAclDataOutRequestFromHost data s with
  | error fault =>
      have handled : handleInput (.aclOut data) s = .error fault := bind_error.mpr (Or.inl run)
      simp only [step, handled]
      rfl
  | ok result =>
      have handled : handleInput (.aclOut data) s = .ok ((), result.2) := bind_run run
      simp only [step, handled]
      rfl

/-- The command is answered and neither forwarded nor translated. -/
def AnsweredLocally (s : World) (data : List UInt8) (opcode : UInt16) : Prop :=
  ∃ t, fakeWiimoteMgrHandleHciCmdFromHost opcode (data.drop hciCmdHdrSize) s = .ok (true, t) ∧
    s.events.length < t.events.length ∧
    hciStateHandleHciCmdFromHost data s = .ok ((false, data), t)

/-- For a translated command whose handle is a connected fake Wiimote's, the dispatchers agree
exactly when the command is one of the nine, carries the parameters that are read, and IOS takes
the events of the answer. -/
theorem dispatchers_agree_iff (s : World) (data : List UInt8) (opcode : UInt16) (w : WiimoteId)
    (carried : commandOpcode data = some opcode) (translated : opcode ∈ translatedCommands)
    (found : owner s.core (commandHandle data) = some w) :
    AnsweredLocally s data opcode ↔ Answerable s opcode (data.drop hciCmdHdrSize) := by
  obtain ⟨handle, handleAt, found⟩ := Option.bind_eq_some_iff.mp found
  obtain ⟨word, loaded, same⟩ :
      ∃ word, load16 (data.drop hciCmdHdrSize) 0 = .ok word ∧ le16toh word = handle := by
    unfold commandHandle at handleAt
    split at handleAt
    · rename_i word loaded
      exact ⟨word, loaded, Option.some.inj handleAt⟩
    · cases handleAt
  obtain ⟨code, codeAt, opcodeIs⟩ : ∃ code, load16 data 0 = .ok code ∧ le16toh code = opcode := by
    unfold commandOpcode at carried
    split at carried
    · rename_i code codeAt
      exact ⟨code, codeAt, Option.some.inj carried⟩
    · cases carried
  rw [← same] at found
  rw [← manager_answers_iff translated loaded found]
  constructor
  · rintro ⟨t, run, events, -⟩
    exact ⟨t, run, events⟩
  · rintro ⟨t, run, events⟩
    refine ⟨t, run, events, ?_⟩
    unfold hciStateHandleHciCmdFromHost
    rw [codeAt, bind_run (lift_run_ok code s), opcodeIs, bind_run run]
    rfl

instance decidableCanInject (s : World) (count : Nat) : Decidable (CanInject s count) :=
  decidable_of_iff
    ((∀ i < count, (s.periphery.heap.outcome (s.periphery.heap.calls + i)).isSome) ∧
      ∀ i < count - s.intr.pendingQ.length,
        s.intr.readyQ.length + i < s.intr.readyCap ∧ s.intr.refuse (s.intr.sends + i) = false)
    ⟨fun both => ⟨both.1, both.2⟩, fun can => ⟨can.memory, can.room⟩⟩

/-- An Authentication Requested command for the first fake Wiimote. -/
theorem dispatchers_agree_iff_authentication :
    ∃ s, Run .lenient anyInput s ∧ owner s.core (commandHandle [0x11, 0x04, 2, 0, 0]) = some 0 ∧
      AnsweredLocally s [0x11, 0x04, 2, 0, 0] hciCmdAuthReq := by
  obtain ⟨s, reached, check⟩ : ∃ s, Run .lenient anyInput s ∧
      decide (owner s.core (commandHandle [0x11, 0x04, 2, 0, 0]) = some 0 ∧ CanInject s 2) =
        true :=
    exists_of_execute [writeScanEnable, .timer [.added (plainDevice 1)], acceptCon 0]
      (by decide +kernel)
  obtain ⟨found, can⟩ := of_decide_eq_true check
  have agree := dispatchers_agree_iff s [0x11, 0x04, 2, 0, 0] hciCmdAuthReq 0 rfl (by decide) found
  exact ⟨s, reached, found, agree.mpr ⟨2, 2, rfl, by decide, can⟩⟩

/-- The first fake Wiimote is connected with handle 0, and asked for its role. -/
theorem role_discovery_reaches_lookup :
    ∃ s, Run .lenient anyInput s ∧ owner s.core (commandHandle [0x09, 0x08, 2, 0, 0]) = some 0 ∧
      commandOpcode [0x09, 0x08, 2, 0, 0] = some hciCmdRoleDiscovery ∧
      hciCmdRoleDiscovery ∈ translatedCommands ∧
      ¬AnsweredLocally s [0x09, 0x08, 2, 0, 0] hciCmdRoleDiscovery ∧
      step s (.hciCommand [0x09, 0x08, 2, 0, 0]) = .error (.assertion .conHandleGetPhys) := by
  obtain ⟨s, reached, check⟩ : ∃ s, Run .lenient anyInput s ∧
      decide (owner s.core (commandHandle [0x09, 0x08, 2, 0, 0]) = some 0 ∧
        faultOf (step s (.hciCommand [0x09, 0x08, 2, 0, 0])) =
          some (.assertion .conHandleGetPhys)) = true :=
    exists_of_execute [writeScanEnable, .timer [.added (plainDevice 1)], acceptCon 0]
      (by decide +kernel)
  obtain ⟨found, fault⟩ := of_decide_eq_true check
  have stops := faultOf_eq_some.mp fault
  refine ⟨s, reached, found, rfl, by decide, ?_, stops⟩
  rintro ⟨t, -, -, run⟩
  rw [step_hciCommand, run] at stops
  cases stops

end Fakemote
