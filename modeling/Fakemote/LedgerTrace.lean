import Fakemote.Calm
import Fakemote.EndpointRun
import Fakemote.Ledger

/-! Every step of the module is a path of the ledger, whose moves the input determines up to the
answers of IOS. -/

namespace Fakemote

open Bytes Program Ledger

theorem inject_cases {heap : Heap} {endpoint : Endpoint} {packet : Packet} {done : Injection}
    (run : inject heap endpoint packet = .ok done) :
    (heap.outcome heap.calls = none ∧
      done = ⟨{ heap with calls := heap.calls + 1 }, endpoint, [], .iosEnomem⟩) ∨
    (∃ junk bytes rest, heap.outcome heap.calls = some junk ∧ packet.bytes = .ok bytes ∧
      bytes.length + rest.length = packet.size.toNat ∧
      done = ⟨{ heap with calls := heap.calls + 1, blocks := heap.blocks ++ [heap.calls] },
        (endpoint.handleBulkIntrReadyMessage (.injected ⟨heap.calls, bytes ++ rest⟩)).1,
        bytes ++ rest,
        (endpoint.handleBulkIntrReadyMessage (.injected ⟨heap.calls, bytes ++ rest⟩)).2⟩) := by
  unfold inject Heap.injmessageAlloc at run
  cases outcome : heap.outcome heap.calls with
  | none =>
      left
      simp only [outcome] at run
      cases run
      exact ⟨rfl, rfl⟩
  | some junk =>
      right
      cases source : packet.bytes with
      | error fault =>
          simp only [outcome, source, bind, Except.bind] at run
          cases run
      | ok bytes =>
          simp only [outcome, source, bind, Except.bind, fillMessage] at run
          split at run
          case h_1 => cases run
          case h_2 msg filled =>
              split at filled
              case isFalse => cases filled
              case isTrue fits =>
                  cases filled
                  cases run
                  simp only [List.length_map, List.length_range] at fits
                  refine ⟨junk, bytes, _, rfl, rfl, ?_, rfl⟩
                  simp only [List.length_drop, List.length_map, List.length_range]
                  omega

theorem ready_produced (e : Endpoint) (msg : ReadyMsg) :
    (e.handleBulkIntrReadyMessage msg).1.produced =
      if (e.handleBulkIntrReadyMessage msg).2 = .iosOk then e.produced ++ [e.content msg]
      else e.produced := by
  rcases Endpoint.handleBulkIntrReadyMessage_cases e msg with ⟨pending, rest, -, result⟩ |
    ⟨-, result⟩ | ⟨-, result⟩
  · rw [result]
    simp
  · rw [result]
    simp
  · rw [result]
    simp

theorem inject_produced {heap : Heap} {endpoint : Endpoint} {packet : Packet} {done : Injection}
    (run : inject heap endpoint packet = .ok done) :
    (done.ret ≠ .iosOk ∧ done.endpoint.produced = endpoint.produced) ∨
    (done.ret = .iosOk ∧
      done.endpoint.produced = endpoint.produced ++ [⟨done.data.length, done.data⟩] ∧
      ∃ bytes rest, packet.bytes = .ok bytes ∧ done.data = bytes ++ rest ∧
        bytes.length + rest.length = packet.size.toNat) := by
  rcases inject_cases run with ⟨-, rfl⟩ | ⟨junk, bytes, rest, -, source, size, rfl⟩
  · left
    exact ⟨by simp, rfl⟩
  · have produced := ready_produced endpoint (.injected ⟨heap.calls, bytes ++ rest⟩)
    by_cases ok : (endpoint.handleBulkIntrReadyMessage
        (.injected ⟨heap.calls, bytes ++ rest⟩)).2 = .iosOk
    · right
      rw [if_pos ok] at produced
      exact ⟨ok, produced, bytes, rest, source, rfl, size⟩
    · left
      rw [if_neg ok] at produced
      exact ⟨ok, produced⟩

theorem injectHciEvent_ledger {s t : World} {event eventSize : UInt8} {fields : List UInt8}
    {ret : IosResult} (run : injectHciEvent event eventSize fields s = .ok (ret, t)) :
    ∃ rest, t.ledger =
        s.ledger.place event ([event, eventSize] ++ fields ++ rest) (ret = .iosOk) ∧
      (ret = .iosOk → fields.length + rest.length = eventSize.toNat) := by
  obtain ⟨_, _, got, run⟩ := bind_ok.mp run
  cases got
  obtain ⟨done, _, first, run⟩ := bind_ok.mp run
  obtain ⟨injected, rfl⟩ := lift_ok.mp first
  cases run
  rcases inject_produced injected with ⟨failed, produced⟩ |
    ⟨ok, produced, bytes, rest, source, data, size⟩
  · refine ⟨[], ?_, fun ok => absurd ok failed⟩
    simp only [World.ledger, produced, failed, if_false, place, decide_false, Bool.false_eq_true]
    rfl
  · cases source
    refine ⟨rest, ?_, ?_⟩
    · simp only [World.ledger, produced, ok, if_true, place, decide_true, data]
      rfl
    · intro _
      have bound := eventSize.toNat_lt
      simp only [hciEventMsg, hciEventHdrSize, List.length_append, List.length_cons,
        List.length_nil, UInt16.toNat_ofNat'] at size
      omega

theorem injectHciEvent_exact {s t : World} {event eventSize : UInt8} {fields : List UInt8}
    {ret : IosResult} (full : fields.length = eventSize.toNat)
    (run : injectHciEvent event eventSize fields s = .ok (ret, t)) :
    t.ledger = s.ledger.place event ([event, eventSize] ++ fields) (ret = .iosOk) := by
  obtain ⟨rest, result, size⟩ := injectHciEvent_ledger run
  by_cases ok : ret = .iosOk
  · have none : rest = [] := List.eq_nil_of_length_eq_zero (by have := size ok; omega)
    rw [result, none, List.append_nil]
  · rw [result]
    simp [place, ok]

theorem injectHciEvent_path {s t : World} {event eventSize : UInt8} {fields : List UInt8}
    {ret : IosResult} (other : event ∉ ledgerCodes)
    (run : injectHciEvent event eventSize fields s = .ok (ret, t)) :
    ∃ data, s.ledger.Path [.event event data (ret = .iosOk)] t.ledger := by
  obtain ⟨rest, result, -⟩ := injectHciEvent_ledger run
  exact ⟨[event, eventSize] ++ fields ++ rest, ⟨other, fun _ => ⟨_, rfl⟩⟩, result⟩

theorem assertInjected_ok {s t : World} {ret : IosResult} {u : Unit}
    (run : assertInjected ret s = .ok (u, t)) : ret = .iosOk ∧ s = t := by
  unfold assertInjected at run
  split at run
  · rename_i ok
    cases run
    exact ⟨ok, rfl⟩
  · cases run

theorem Quiet.suspends {p q : Periphery} (quiet : Quiet p q) : q.suspends = p.suspends := by
  induction quiet with
  | still heap bulkIn suspends => exact suspends
  | inject run => rfl
  | trans _ _ first second => rw [second, first]

theorem withPeriphery_frame {α : Type} {s t : World} {body : Core → P α} {a : α}
    (run : withPeriphery body s = .ok (a, t)) :
    ∃ p, body s.core s.periphery = .ok (a, p) ∧ t = { s with periphery := p } :=
  zoom_ok.mp run

theorem withPeriphery_ledger {α : Type} {s t : World} {body : Core → P α} {a : α}
    (calm : ∀ core, Calm (body core)) (run : withPeriphery body s = .ok (a, t)) :
    t.ledger = s.ledger := by
  obtain ⟨p, inner, rfl⟩ := withPeriphery_frame run
  have quiet := (calm s.core).respects _ _ _ inner
  simp only [World.ledger, quiet.suspends]

theorem onDevice_ledger {α : Type} {s t : World} {w : WiimoteId} {body : Device → P α} {a : α}
    (calm : ∀ dev, Calm (body dev)) (run : onDevice w body s = .ok (a, t)) :
    t.ledger = s.ledger :=
  withPeriphery_ledger (fun core => calm ⟨core, w⟩) run

theorem modifyCore_ledger {s t : World} {f : Core → Core} {u : Unit}
    (run : modifyCore f s = .ok (u, t)) :
    t.ledger = { s.ledger with core := f s.ledger.core } := by
  cases run
  rfl

theorem getLink_ok {s t : World} {w : WiimoteId} {link : Link}
    (run : getLink w s = .ok (link, t)) : link = s.ledger.core.links w ∧ s = t := by
  cases run
  exact ⟨rfl, rfl⟩

theorem releaseInputDevice_ledger {s t : World} {inputDevice : Option SlotId} {u : Unit}
    (run : releaseInputDevice inputDevice s = .ok (u, t)) :
    t.ledger = s.ledger.release inputDevice := by
  cases inputDevice with
  | none =>
      cases run
      rfl
  | some d =>
      obtain ⟨_, _, first, run⟩ := bind_ok.mp run
      cases first
      cases run
      simp [World.ledger, release, Core.release, Core.setSlot, Periphery.suspends]

theorem fakeWiimoteDisconnect_ledger {s t : World} {w : WiimoteId} {ret : IosResult}
    (run : fakeWiimoteDisconnect w s = .ok (ret, t)) :
    ∃ placed, t.ledger = s.ledger.disconnect w placed := by
  obtain ⟨_, s1, first, run⟩ := bind_ok.mp run
  have inactive := modifyCore_ledger first
  obtain ⟨link, _, got, run⟩ := bind_ok.mp run
  obtain ⟨same, rfl⟩ := getLink_ok got
  obtain ⟨_, s2, second, run⟩ := bind_ok.mp run
  have released := releaseInputDevice_ledger second
  subst same
  rw [inactive] at released run
  simp only [Core.setLink, Function.update_self] at released run
  unfold Ledger.disconnect
  split at run
  · rename_i complete
    refine ⟨decide (ret = .iosOk), ?_⟩
    rw [injectHciEvent_exact (by rfl) run, released, if_pos complete]
    rfl
  · rename_i complete
    cases run
    refine ⟨false, ?_⟩
    rw [released, if_neg complete]
    rfl

/-- Other events that a handler of the host's commands injects. -/
def EventsOnly (labels : List Label) : Prop :=
  ∀ label ∈ labels, ∃ code data placed, label = .event code data placed

theorem EventsOnly.nil : EventsOnly [] := by
  intro label member
  cases member

theorem EventsOnly.append {first second : List Label} (one : EventsOnly first)
    (two : EventsOnly second) : EventsOnly (first ++ second) := by
  intro label member
  rcases List.mem_append.mp member with h | h
  · exact one label h
  · exact two label h

theorem EventsOnly.single {code : UInt8} {data : List UInt8} {placed : Bool} :
    EventsOnly [.event code data placed] := by
  intro label member
  rw [List.mem_singleton.mp member]
  exact ⟨code, data, placed, rfl⟩

/-- Other events leave the core alone, and do not depend on it. -/
theorem EventsOnly.shift {labels : List Label} (events : EventsOnly labels) (core : Core) :
    ∀ {a b : Ledger}, a.Path labels b →
      b.core = a.core ∧ Path { a with core := core } labels { b with core := core } := by
  induction labels with
  | nil =>
      intro a b path
      cases path
      exact ⟨rfl, rfl⟩
  | cons label labels ih =>
      intro a b path
      obtain ⟨code, data, placed, rfl⟩ := events label List.mem_cons_self
      have later := fun l member => events l (List.mem_cons_of_mem _ member)
      obtain ⟨same, shifted⟩ := ih later path.2
      have moved : act { a with core := core } (.event code data placed) =
          { a.act (.event code data placed) with core := core } := by
        simp only [act, place]
        split <;> rfl
      constructor
      · rw [same]
        simp only [act, place]
        split <;> rfl
      · refine ⟨path.1, ?_⟩
        rw [moved]
        exact shifted

/-- A program that injects other events and touches nothing else of the ledger. -/
def Informs {α : Type} (m : M α) : Prop :=
  ∀ s a t, m s = .ok (a, t) → ∃ labels, EventsOnly labels ∧ s.ledger.Path labels t.ledger

namespace Informs

variable {α β : Type}

theorem still {m : M α} (same : ∀ s a t, m s = .ok (a, t) → t.ledger = s.ledger) :
    Informs m := by
  intro s a t run
  exact ⟨[], .nil, same s a t run⟩

theorem pure (a : α) : Informs (pure a : M α) := by
  apply still
  intro s b t run
  cases run
  rfl

theorem bind {m : M α} {f : α → M β} (first : Informs m) (rest : ∀ a, Informs (f a)) :
    Informs (m >>= f) := by
  intro s b u run
  obtain ⟨a, t, one, two⟩ := bind_ok.mp run
  obtain ⟨before, events, path⟩ := first s a t one
  obtain ⟨after, moreEvents, morePath⟩ := rest a t b u two
  exact ⟨before ++ after, events.append moreEvents, path.append morePath⟩

theorem get : Informs (get : M World) := by
  apply still
  intro s a t run
  cases run
  rfl

theorem throw (fault : Fault) : Informs (throw fault : M α) := by
  intro s a t run
  cases run

theorem lift (x : Except Fault α) : Informs (liftM x : M α) := by
  apply still
  intro s a t run
  rw [(lift_ok.mp run).2]

theorem ite {condition : Prop} [Decidable condition] {m n : M α} (yes : Informs m)
    (no : Informs n) : Informs (if condition then m else n) := by
  split
  · exact yes
  · exact no

theorem inject {event eventSize : UInt8} {fields : List UInt8} (other : event ∉ ledgerCodes) :
    Informs (injectHciEvent event eventSize fields) := by
  intro s ret t run
  obtain ⟨data, path⟩ := injectHciEvent_path other run
  exact ⟨_, .single, path⟩

theorem assertInjected (ret : IosResult) : Informs (assertInjected ret) := by
  apply still
  intro s u t run
  rw [(assertInjected_ok run).2]

end Informs

theorem commandStatus_informs (opcode : UInt16) : Informs (injectHciEventCommandStatus opcode) :=
  .inject (by decide)

/-- The handle is drawn and the event placed in one move; the events before it commute with it. -/
theorem fakeWiimoteHandleHciCmdAcceptCon_path {s t : World} {w : WiimoteId} {role : UInt8}
    {u : Unit} (run : fakeWiimoteHandleHciCmdAcceptCon w role s = .ok (u, t)) :
    ∃ labels, EventsOnly labels ∧ s.ledger.Path (labels ++ [.accept w]) t.ledger := by
  obtain ⟨ret, s1, first, run⟩ := bind_ok.mp run
  obtain ⟨before, events, path⟩ := commandStatus_informs _ _ _ _ first
  obtain ⟨_, s2, asserted, run⟩ := bind_ok.mp run
  obtain ⟨-, rfl⟩ := assertInjected_ok asserted
  obtain ⟨_, _, got, run⟩ := bind_ok.mp run
  cases got
  obtain ⟨_, s3, drawn, run⟩ := bind_ok.mp run
  have alloc := modifyCore_ledger drawn
  obtain ⟨_, s4, completed, run⟩ := bind_ok.mp run
  have complete := modifyCore_ledger completed
  obtain ⟨_, s5, linking, run⟩ := bind_ok.mp run
  have session := withPeriphery_ledger (fun _ => calm_modifySession _ _) linking
  obtain ⟨link, _, got, run⟩ := bind_ok.mp run
  obtain ⟨same, rfl⟩ := getLink_ok got
  obtain ⟨_, s6, roleChange, run⟩ := bind_ok.mp run
  obtain ⟨ret, s7, injected, run⟩ := bind_ok.mp run
  obtain ⟨ok, rfl⟩ := assertInjected_ok run
  have placed := injectHciEvent_exact (by simp [bytes16, link.bdaddr.property]) injected
  have role : Informs (when (role = hciRoleMaster) (do
      let ret ← injectHciEventRoleChange link.bdaddr hciRoleMaster
      assertInjected ret)) := .ite (.bind (.inject (by decide)) .assertInjected) (.pure _)
  obtain ⟨after, moreEvents, morePath⟩ := role _ _ _ roleChange
  obtain ⟨kept, shifted⟩ := moreEvents.shift s1.ledger.core morePath
  rw [session, complete, alloc] at same kept shifted
  refine ⟨before ++ after, events.append moreEvents, ?_⟩
  rw [List.append_assoc]
  refine path.append (Labelled.Path.append shifted ⟨trivial, ?_⟩)
  rw [placed, ok, same]
  simp only [act, place, Core.setLink, Function.update_self, decide_true, if_true] at kept ⊢
  rw [kept]
  rfl

theorem inputDeviceFromEgc_some {core : Core} {device : Nat} {d : SlotId}
    (found : inputDeviceFromEgc core device = some d) : (core.slots d).device.isSome := by
  have matched := List.find?_some found
  cases slot : (core.slots d).device with
  | none => simp [slot] at matched
  | some egc => rfl

theorem inputDeviceHandleAdded_path {s t : World} {device : EgcDevice} {u : Unit}
    (run : inputDeviceHandleAdded device s = .ok (u, t)) :
    t.ledger = s.ledger ∨ ∃ d, s.ledger.Path [.plug d device] t.ledger := by
  obtain ⟨_, _, got, run⟩ := bind_ok.mp run
  cases got
  rcases free : freeSlot s.core with _ | d
  · rw [free] at run
    cases run
    exact Or.inl rfl
  · rw [free] at run
    right
    obtain ⟨_, s1, first, run⟩ := bind_ok.mp run
    have plugged := modifyCore_ledger first
    have mapped := withPeriphery_ledger (fun _ => calm_modifyMapping _ _) run
    refine ⟨d, free, ?_⟩
    rw [mapped, plugged]
    rfl

theorem inputDeviceHandleRemoved_path {s t : World} {device : Nat} {u : Unit}
    (run : inputDeviceHandleRemoved device s = .ok (u, t)) :
    t.ledger = s.ledger ∨ ∃ d placed, inputDeviceFromEgc s.core device = some d ∧
      s.ledger.Path [.remove d placed] t.ledger := by
  obtain ⟨_, _, got, run⟩ := bind_ok.mp run
  cases got
  rcases found : inputDeviceFromEgc s.core device with _ | d
  · rw [found] at run
    cases run
    exact Or.inl rfl
  · rw [found] at run
    right
    obtain ⟨_, s1, first, run⟩ := bind_ok.mp run
    have unplugged := modifyCore_ledger run
    have occupied : (s.ledger.core.slots d).device.isSome := inputDeviceFromEgc_some found
    rcases assigned : (s.core.slots d).assignedWiimote with _ | w
    · rw [assigned] at first
      cases first
      refine ⟨d, false, rfl, occupied, ?_⟩
      rw [unplugged]
      simp only [act, remove, World.ledger, assigned]
      rfl
    · rw [assigned] at first
      obtain ⟨_, s2, released, first⟩ := bind_ok.mp first
      obtain ⟨ret, s3, second, last⟩ := bind_ok.mp first
      cases last
      obtain ⟨placed, disconnected⟩ := fakeWiimoteDisconnect_ledger second
      refine ⟨d, placed, rfl, occupied, ?_⟩
      unfold fakeWiimoteReleaseInputDevice at released
      rw [unplugged, disconnected, modifyCore_ledger released]
      simp only [act, remove, World.ledger, assigned]
      rfl

theorem inputDevicesTick_ledger {s t : World} {u : Unit}
    (run : inputDevicesTick s = .ok (u, t)) : t.ledger = s.ledger.act .tickSlots := by
  obtain ⟨_, s1, first, run⟩ := bind_ok.mp run
  rw [modifyCore_ledger run, modifyCore_ledger first]
  rfl

/-- An inactive fake Wiimote gets the first controller that waits for one. -/
def Ledger.offer (a : Ledger) (w : WiimoteId) : Ledger :=
  if (a.core.links w).active then a
  else
    match inputDeviceGetUnassigned a.core with
    | none => a
    | some d => a.act (.assign w d)

theorem offer_path (a : Ledger) (w : WiimoteId) :
    a.offer w = a ∨ ∃ d, a.Path [.assign w d] (a.offer w) := by
  unfold Ledger.offer
  split
  · exact Or.inl rfl
  · rename_i inactive
    rcases unassigned : inputDeviceGetUnassigned a.core with _ | d
    · exact Or.inl rfl
    · exact Or.inr ⟨d, ⟨Bool.eq_false_iff.mpr inactive, unassigned⟩, rfl⟩

theorem checkAssignInputDevice_ledger {s t : World} {w : WiimoteId} {u : Unit}
    (run : checkAssignInputDevice w s = .ok (u, t)) : t.ledger = s.ledger.offer w := by
  obtain ⟨_, _, got, run⟩ := bind_ok.mp run
  cases got
  unfold Ledger.offer
  split at run
  · rename_i active
    cases run
    rw [if_pos (show (s.ledger.core.links w).active = true from active)]
  · rename_i inactive
    rw [if_neg (show ¬ (s.ledger.core.links w).active = true from inactive)]
    rcases unassigned : inputDeviceGetUnassigned s.core with _ | d
    · rw [unassigned] at run
      cases run
      simp only [ledger_core, unassigned]
    · rw [unassigned] at run
      obtain ⟨_, s1, first, run⟩ := bind_ok.mp run
      obtain ⟨_, s2, second, run⟩ := bind_ok.mp run
      obtain ⟨_, s3, third, session⟩ := bind_ok.mp second
      have reset := withPeriphery_ledger (fun _ => calm_modifySession _ _) session
      unfold inputDeviceAssignWiimote at first
      rw [modifyCore_ledger run, reset, modifyCore_ledger third, modifyCore_ledger first]
      simp only [ledger_core, unassigned, act, Core.setLink, Function.update_self,
        Function.update_idem]

def Core.asks (core : Core) (w : WiimoteId) : Prop :=
  (core.links w).active = true ∧ (core.links w).basebandState = .requestConnection ∧
    hciCanRequestConnection core.hci = true

theorem fakeWiimoteTick_path {s t : World} {w : WiimoteId} {u : Unit}
    (active : (s.core.links w).active = true) (run : fakeWiimoteTick w s = .ok (u, t)) :
    (t.ledger = s.ledger ∧ ¬ s.core.asks w) ∨
      (s.core.asks w ∧ ∃ placed, s.ledger.Path [.request w placed] t.ledger) := by
  obtain ⟨_, _, got, run⟩ := bind_ok.mp run
  cases got
  rcases requesting : (s.core.links w).basebandState with _ | _ | _
  · rw [requesting] at run
    cases run
    exact Or.inl ⟨rfl, fun asks => by simp [Core.asks, requesting] at asks⟩
  · rw [requesting] at run
    dsimp only [when] at run
    split at run
    · rename_i can
      right
      obtain ⟨ret, s1, first, run⟩ := bind_ok.mp run
      have injected := injectHciEvent_exact
        (by simp [(s.core.links w).bdaddr.property]) first
      refine ⟨⟨active, requesting, can⟩, decide (ret = .iosOk), ⟨active, requesting⟩, ?_⟩
      split at run
      · rename_i ok
        rw [modifyCore_ledger run, injected]
        simp only [act, place, ok, decide_true, if_true]
        rfl
      · rename_i failed
        cases run
        rw [injected]
        simp only [act, place, failed, decide_false, Bool.false_eq_true, if_false]
        rfl
    · rename_i cannot
      cases run
      exact Or.inl ⟨rfl, fun asks => cannot asks.2.2⟩
  · rw [requesting] at run
    exact Or.inl ⟨onDevice_ledger (fun dev => dev.calm_tickConnected) run,
      fun asks => by simp [Core.asks, requesting] at asks⟩

theorem tickActive_path {s t : World} {w : WiimoteId} {u : Unit}
    (run : tickActive w s = .ok (u, t)) :
    (t.ledger = s.ledger ∧ ¬ s.core.asks w) ∨
      (s.core.asks w ∧ ∃ placed, s.ledger.Path [.request w placed] t.ledger) := by
  obtain ⟨link, _, got, run⟩ := bind_ok.mp run
  obtain ⟨same, rfl⟩ := getLink_ok got
  unfold when at run
  split at run
  · rename_i active
    exact fakeWiimoteTick_path (by rw [same] at active; exact active) run
  · rename_i inactive
    cases run
    exact Or.inl ⟨rfl, fun asks => inactive (by rw [same]; exact asks.1)⟩

theorem connectedLinks_length (core : Core) : (connectedLinks core).length ≤ 2 :=
  List.length_filter_le _ _

theorem numComplPkts_fields {entries : List (UInt16 × UInt16)} (few : entries.length ≤ 2) :
    ([UInt8.ofNat entries.length] ++
      entries.flatMap fun e => bytes16 (htole16 e.1) ++ bytes16 (htole16 e.2)).length =
      (1 + UInt8.ofNat entries.length * 4).toNat := by
  match entries, few with
  | [], _ => rfl
  | [_], _ => rfl
  | [_, _], _ => rfl

theorem sendEventNumberOfCompletedPackets_ledger {s t : World} {u : Unit}
    (run : fakeWiimoteMgrSendEventNumberOfCompletedPackets s = .ok (u, t)) :
    ∃ placed, t.ledger = s.ledger.act (.credit placed) := by
  obtain ⟨_, _, got, run⟩ := bind_ok.mp run
  cases got
  obtain ⟨_, s1, first, run⟩ := bind_ok.mp run
  obtain ⟨_, s2, second, run⟩ := bind_ok.mp run
  have cleared : s2.ledger = { s.ledger with
      core := (s.ledger.core.setLink 0 resetCount).setLink 1 resetCount } := by
    unfold resetNumCompleted modifyLink at first second
    rw [modifyCore_ledger second, modifyCore_ledger first]
    rfl
  unfold when at run
  split at run
  · rename_i positive
    have due : creditTotal s.ledger.core > 0 := positive
    obtain ⟨ret, s3, injected, run⟩ := bind_ok.mp run
    cases run
    have bound := connectedLinks_length s.core
    have full : ((connectedLinks s.core).map numComplPktsEntry).length ≤ 2 := by
      rwa [List.length_map]
    refine ⟨decide (ret = .iosOk), ?_⟩
    rw [injectHciEvent_exact (numComplPkts_fields full) injected, cleared]
    simp only [act]
    rw [if_pos due]
    rfl
  · rename_i zero
    have none : ¬ creditTotal s.ledger.core > 0 := zero
    cases run
    refine ⟨false, ?_⟩
    rw [cleared]
    simp only [act]
    rw [if_neg none]

/-- The moves of a timer before the credits are sent. -/
inductive TimerMove : Label → Prop
  | plug {d device} : TimerMove (.plug d device)
  | remove {d placed} : TimerMove (.remove d placed)
  | tickSlots : TimerMove .tickSlots
  | assign {w d} : TimerMove (.assign w d)
  | request {w placed} : TimerMove (.request w placed)

def Ticks {α : Type} (m : M α) : Prop :=
  ∀ s a t, m s = .ok (a, t) →
    ∃ labels, (∀ label ∈ labels, TimerMove label) ∧ s.ledger.Path labels t.ledger

namespace Ticks

variable {α β : Type}

theorem still {m : M α} (same : ∀ s a t, m s = .ok (a, t) → t.ledger = s.ledger) : Ticks m :=
  fun s a t run => ⟨[], by simp, same s a t run⟩

theorem bind {m : M α} {f : α → M β} (first : Ticks m) (rest : ∀ a, Ticks (f a)) :
    Ticks (m >>= f) := by
  intro s b u run
  obtain ⟨a, t, one, two⟩ := bind_ok.mp run
  obtain ⟨before, moves, path⟩ := first s a t one
  obtain ⟨after, moreMoves, morePath⟩ := rest a t b u two
  refine ⟨before ++ after, ?_, path.append morePath⟩
  intro label member
  rcases List.mem_append.mp member with h | h
  · exact moves label h
  · exact moreMoves label h

theorem pure (a : α) : Ticks (pure a : M α) := by
  apply still
  intro s b t run
  cases run
  rfl

theorem when {condition : Prop} [Decidable condition] {m : M Unit} (yes : Ticks m) :
    Ticks (when condition m) := by
  unfold Program.when
  split
  · exact yes
  · exact pure ()

theorem move {m : M α} (one : ∀ s a t, m s = .ok (a, t) → t.ledger = s.ledger ∨
    ∃ label, TimerMove label ∧ s.ledger.Path [label] t.ledger) : Ticks m := by
  intro s a t run
  rcases one s a t run with same | ⟨label, timer, path⟩
  · exact ⟨[], by simp, same⟩
  · exact ⟨[label], by simpa using timer, path⟩

theorem handleEgcEvent (event : EgcEvent) : Ticks (handleEgcEvent event) := by
  apply move
  intro s a t run
  cases event with
  | added device =>
      rcases inputDeviceHandleAdded_path run with same | ⟨d, path⟩
      · exact Or.inl same
      · exact Or.inr ⟨_, .plug, path⟩
  | removed device =>
      rcases inputDeviceHandleRemoved_path run with same | ⟨d, placed, -, path⟩
      · exact Or.inl same
      · exact Or.inr ⟨_, .remove, path⟩
  | input device state =>
      dsimp only [Fakemote.handleEgcEvent] at run
      refine Or.inl (withPeriphery_ledger ?_ run)
      exact fun _ => .modify fun _ => .still rfl rfl rfl

theorem egcHandleEvents (events : List EgcEvent) : Ticks (egcHandleEvents events) := by
  induction events with
  | nil => exact pure ()
  | cons event events ih => exact bind (handleEgcEvent event) fun _ => ih

theorem inputDevicesTick : Ticks inputDevicesTick :=
  move fun _ _ _ run => Or.inr ⟨_, .tickSlots, trivial, inputDevicesTick_ledger run⟩

theorem checkAssignInputDevice (w : WiimoteId) : Ticks (checkAssignInputDevice w) := by
  apply move
  intro s a t run
  rw [checkAssignInputDevice_ledger run]
  rcases offer_path s.ledger w with same | ⟨d, path⟩
  · exact Or.inl same
  · exact Or.inr ⟨_, .assign, path⟩

theorem tickActive (w : WiimoteId) : Ticks (tickActive w) := by
  apply move
  intro s a t run
  rcases tickActive_path run with ⟨same, -⟩ | ⟨-, placed, path⟩
  · exact Or.inl same
  · exact Or.inr ⟨_, .request, path⟩

end Ticks

theorem periodicTimer_path {s t : World} {events : List EgcEvent} {u : Unit}
    (run : periodicTimer events s = .ok (u, t)) :
    ∃ labels placed, (∀ label ∈ labels, TimerMove label) ∧
      s.ledger.Path (labels ++ [.credit placed]) t.ledger := by
  obtain ⟨_, s1, first, run⟩ := bind_ok.mp run
  obtain ⟨_, s2, second, run⟩ := bind_ok.mp run
  obtain ⟨before, moves, path⟩ := Ticks.egcHandleEvents events _ _ _ first
  obtain ⟨middle, moreMoves, morePath⟩ := Ticks.inputDevicesTick _ _ _ second
  obtain ⟨_, _, got, run⟩ := bind_ok.mp run
  cases got
  obtain ⟨_, s3, assigned, run⟩ := bind_ok.mp run
  obtain ⟨_, s4, tick0, run⟩ := bind_ok.mp run
  obtain ⟨_, s5, tick1, run⟩ := bind_ok.mp run
  have assigns : Ticks (when (hciCanRequestConnection s2.core.hci)
      fakeWiimoteMgrCheckAssignInputDevices) :=
    .when (.bind (.checkAssignInputDevice 0) fun _ => .checkAssignInputDevice 1)
  obtain ⟨labels1, moves1, path1⟩ := assigns _ _ _ assigned
  obtain ⟨labels2, moves2, path2⟩ := Ticks.tickActive 0 _ _ _ tick0
  obtain ⟨labels3, moves3, path3⟩ := Ticks.tickActive 1 _ _ _ tick1
  obtain ⟨placed, credited⟩ := sendEventNumberOfCompletedPackets_ledger run
  refine ⟨before ++ (middle ++ (labels1 ++ (labels2 ++ labels3))), placed, ?_, ?_⟩
  · intro label member
    simp only [List.mem_append] at member
    rcases member with h | h | h | h | h
    · exact moves label h
    · exact moreMoves label h
    · exact moves1 label h
    · exact moves2 label h
    · exact moves3 label h
  · exact (path.append (morePath.append (path1.append (path2.append path3)))).append
      ⟨trivial, credited⟩

/-- The fake Wiimote whose address a command with this opcode carries. -/
def addressed (opcode : UInt16) (core : Core) (data : List UInt8) : Option WiimoteId :=
  match load16 data 0, loadBdaddr (data.drop hciCmdHdrSize) 0 with
  | .ok word, .ok bdaddr =>
      if le16toh word = opcode then doesBdaddrBelongToFakeWiimote core bdaddr else none
  | _, _ => none

theorem informs_answerForHandle {handle : UInt16} {answer : M Unit} (informs : Informs answer) :
    Informs (answerForHandle handle answer) := by
  refine .bind .get fun s => ?_
  split
  · exact .bind informs fun _ => .pure _
  · exact .pure _

theorem informs_answerWithStatus {opcode : UInt16} {result : M IosResult}
    (informs : Informs result) : Informs (answerWithStatus opcode result) :=
  .bind (commandStatus_informs _) fun _ => .bind (.assertInjected _) fun _ =>
    .bind informs fun _ => .assertInjected _

theorem informs_handlers (payload : List UInt8) :
    Informs (handleChangeConPacketType payload) ∧ Informs (handleAuthReq payload) ∧
    Informs (handleRemoteNameReq payload) ∧ Informs (handleReadRemoteFeatures payload) ∧
    Informs (handleReadRemoteVerInfo payload) ∧ Informs (handleReadClockOffset payload) ∧
    Informs (handleSniffMode payload) ∧ Informs (handleWriteLinkPolicySettings payload) ∧
    Informs (handleReadStoredLinkKey payload) ∧
    Informs (handleWriteLinkSupervisionTimeout payload) := by
  have answered {opcode : UInt16} {result : M IosResult} (informs : Informs result)
      {handle : UInt16} : Informs (answerForHandle handle (answerWithStatus opcode result)) :=
    informs_answerForHandle (informs_answerWithStatus informs)
  refine ⟨.bind (.lift _) fun _ => informs_answerForHandle (.bind (.lift _) fun _ =>
      informs_answerWithStatus (.inject (by decide))),
    .bind (.lift _) fun _ => answered (.inject (by decide)), ?_,
    .bind (.lift _) fun _ => answered (.inject (by decide)),
    .bind (.lift _) fun _ => answered (.inject (by decide)),
    .bind (.lift _) fun _ => answered (.inject (by decide)),
    .bind (.lift _) fun _ => informs_answerForHandle (.bind (.lift _) fun _ =>
      informs_answerWithStatus (.inject (by decide))),
    .bind (.lift _) fun _ => informs_answerForHandle
      (.bind (commandStatus_informs _) fun _ => .assertInjected _), ?_,
    .bind (.lift _) fun _ => informs_answerForHandle
      (.bind (.inject (by decide)) fun _ => .assertInjected _)⟩
  · refine .bind (.lift _) fun bdaddr => .bind .get fun s => ?_
    split
    · exact .bind (informs_answerWithStatus (.inject (by decide))) fun _ => .pure _
    · exact .pure _
  · refine .bind (.lift _) fun bdaddr => .bind (.lift _) fun readAll => .bind .get fun s => ?_
    exact .ite (.bind (.inject (by decide)) fun _ => .pure _) (.ite (.throw _) (.pure _))

theorem getFakeWiimote_connected {core : Core} {handle : UInt16} {w : WiimoteId}
    (found : getFakeWiimoteForHciConHandle core handle = some w) :
    (core.links w).isConnected = true ∧ (core.links w).hciConHandle = handle := by
  simpa using List.find?_some found

theorem resetFakeWiimote_ledger {s t : World} {w : WiimoteId} {u : Unit}
    (run : resetFakeWiimote w s = .ok (u, t)) : t.ledger = s.ledger.act (.forget w) := by
  obtain ⟨link, _, got, run⟩ := bind_ok.mp run
  obtain ⟨same, rfl⟩ := getLink_ok got
  subst same
  unfold when at run
  split at run
  · rename_i active
    obtain ⟨_, s1, first, run⟩ := bind_ok.mp run
    unfold modifyLink at run
    rw [modifyCore_ledger run, releaseInputDevice_ledger first]
    simp only [act]
    rw [if_pos active]
  · rename_i inactive
    cases run
    simp only [act]
    rw [if_neg inactive]

end Fakemote
