import Fakemote.Steady
import Fakemote.EndpointRun
import Fakemote.Main

/-! The heap and the two endpoints as one system: messages are injected, buffers requested and
hand-down messages returned, and a step of the module does nothing else to them. -/

namespace Fakemote

open Program Transition Function

structure Traffic where
  heap : Heap
  endpoint : EndpointId → Endpoint

def World.traffic (s : World) : Traffic := ⟨s.periphery.heap, s.endpoint⟩

inductive Flow (f : Traffic) : Traffic → Prop
  | inject (ep : EndpointId) {packet : Packet} {done : Injection}
      (run : inject f.heap (f.endpoint ep) packet = .ok done) :
      Flow f ⟨done.heap, update f.endpoint ep done.endpoint⟩
  | request (ep : EndpointId) {msg : IpcMessage} {e : Endpoint} {out : Option ToOh1}
      (run : (f.endpoint ep).receiveMessage msg = .ok (e, out)) :
      Flow f ⟨f.heap, update f.endpoint ep e⟩
  | reply (ep : EndpointId) {retval : Int} {buffer : List UInt8}
      (lent : 0 < (f.endpoint ep).outstanding) :
      Flow f ⟨f.heap, update f.endpoint ep ((f.endpoint ep).resourceReply retval buffer).1⟩

abbrev Flows := Relation.ReflTransGen Flow

theorem traffic_eq {t : World} {f : Traffic} (heap : t.periphery.heap = f.heap)
    (intr : t.intr = f.endpoint .intr) (bulkIn : t.periphery.bulkIn = f.endpoint .bulkIn) :
    t.traffic = f := by
  have endpoints : t.endpoint = f.endpoint := by
    funext ep
    cases ep with
    | intr => exact intr
    | bulkIn => exact bulkIn
  unfold World.traffic
  rw [heap, endpoints]

theorem Delivers.flows {s t : World} (delivers : Delivers s t) :
    Flows s.traffic t.traffic := by
  induction delivers with
  | @still s t heap intr bulkIn =>
      have same : t.traffic = s.traffic := traffic_eq heap intr bulkIn
      rw [same]
  | @event s t packet done run heap intr bulkIn =>
      have result : t.traffic = ⟨done.heap, update s.endpoint .intr done.endpoint⟩ :=
        traffic_eq heap intr bulkIn
      rw [result]
      exact .single (.inject .intr run)
  | @packet s t packet done run heap intr bulkIn =>
      have result : t.traffic = ⟨done.heap, update s.endpoint .bulkIn done.endpoint⟩ :=
        traffic_eq heap intr bulkIn
      rw [result]
      exact .single (.inject .bulkIn run)
  | trans _ _ first second => exact first.trans second

theorem Steady.flows {α : Type} {m : M α} (steady : Steady m) {s t : World} {a : α}
    (run : m s = .ok (a, t)) : Flows s.traffic t.traffic :=
  (steady.respects s a t run).flows

theorem steady_handleEgcEvent (event : EgcEvent) : Steady (handleEgcEvent event) := by
  cases event with
  | added device => exact steady_inputDeviceHandleAdded device
  | removed device => exact steady_inputDeviceHandleRemoved device
  | input device state =>
      unfold handleEgcEvent
      apply steady_withPeriphery
      exact fun _ => .modify fun _ => .still rfl rfl rfl

theorem steady_egcHandleEvents (events : List EgcEvent) : Steady (egcHandleEvents events) := by
  induction events with
  | nil => exact .pure ()
  | cons event events ih => exact .bind (steady_handleEgcEvent event) fun _ => ih

theorem steady_periodicTimer (events : List EgcEvent) : Steady (periodicTimer events) :=
  .bind (steady_egcHandleEvents events) fun _ => .bind steady_inputDevicesTick fun _ =>
    steady_fakeWiimoteMgrTickDevices

theorem hciCommand_flows {s t : World} {data : List UInt8} {result : Bool × List UInt8}
    (run : hciStateHandleHciCmdFromHost data s = .ok (result, t)) :
    Flows s.traffic t.traffic := by
  obtain ⟨word, s1, first, run⟩ := bind_ok.mp run
  obtain ⟨-, rfl⟩ := lift_ok.mp first
  obtain ⟨handled, s2, managed, run⟩ := bind_ok.mp run
  have flows := (steady_fakeWiimoteMgrHandleHciCmdFromHost _ _).flows managed
  split at run
  · cases run
    exact flows
  · obtain ⟨_, _, got, run⟩ := bind_ok.mp run
    cases got
    obtain ⟨⟨hci, bytes⟩, s3, snooped, run⟩ := bind_ok.mp run
    obtain ⟨-, rfl⟩ := lift_ok.mp snooped
    cases run
    exact flows

theorem aclOut_flows {s t : World} {data : List UInt8} {result : Bool × List UInt8}
    (run : hciStateHandleAclDataOutRequestFromHost data s = .ok (result, t)) :
    Flows s.traffic t.traffic := by
  obtain ⟨word, s1, first, run⟩ := bind_ok.mp run
  obtain ⟨-, rfl⟩ := lift_ok.mp first
  obtain ⟨handled, s2, managed, run⟩ := bind_ok.mp run
  have flows := (steady_fakeWiimoteMgrHandleAclDataOutRequestFromHost _ _).flows managed
  split at run
  · cases run
    exact flows
  · obtain ⟨_, _, got, run⟩ := bind_ok.mp run
    cases got
    obtain ⟨bytes, s3, translated, run⟩ := bind_ok.mp run
    obtain ⟨-, rfl⟩ := lift_ok.mp translated
    cases run
    exact flows

theorem modifyEndpoint_traffic {s t : World} {ep : EndpointId} {f : Endpoint → Endpoint}
    {u : Unit} (run : modifyEndpoint ep f s = .ok (u, t)) :
    t.traffic = ⟨s.periphery.heap, update s.endpoint ep (f (s.endpoint ep))⟩ := by
  cases ep with
  | intr =>
      cases run
      exact traffic_eq rfl rfl rfl
  | bulkIn =>
      cases run
      exact traffic_eq rfl rfl rfl

theorem bufferRequest_flows {s t : World} {ep : EndpointId} {msg : IpcMessage} {u : Unit}
    (run : handleBufferRequest ep msg s = .ok (u, t)) : Flows s.traffic t.traffic := by
  obtain ⟨_, _, got, run⟩ := bind_ok.mp run
  cases got
  obtain ⟨⟨e, out⟩, s1, first, run⟩ := bind_ok.mp run
  obtain ⟨received, rfl⟩ := lift_ok.mp first
  rw [modifyEndpoint_traffic run]
  exact .single (.request ep received)

theorem trackReply_traffic {s t : World} {ep : EndpointId} {retval : Int}
    {buffer tracked : List UInt8} (run : trackReply ep retval buffer s = .ok (tracked, t)) :
    t.traffic = s.traffic := by
  unfold trackReply at run
  split at run
  · obtain ⟨_, _, got, run⟩ := bind_ok.mp run
    cases got
    cases ep with
    | intr =>
        obtain ⟨⟨hci, bytes⟩, s1, handled, run⟩ := bind_ok.mp run
        obtain ⟨-, rfl⟩ := lift_ok.mp handled
        cases run
        rfl
    | bulkIn =>
        rw [(lift_ok.mp run).2]
  · cases run
    rfl

theorem oh1ResourceReply_flows {s t : World} {ep : EndpointId} {retval : Int}
    {written : List UInt8} {u : Unit} (lent : 0 < (s.endpoint ep).outstanding)
    (run : oh1ResourceReply ep retval written s = .ok (u, t)) : Flows s.traffic t.traffic := by
  obtain ⟨_, _, got, run⟩ := bind_ok.mp run
  cases got
  obtain ⟨tracked, s1, tracking, run⟩ := bind_ok.mp run
  have same := trackReply_traffic tracking
  have modified := modifyEndpoint_traffic run
  have heap : s1.periphery.heap = s.periphery.heap := congrArg Traffic.heap same
  have endpoints : s1.endpoint = s.endpoint := congrArg Traffic.endpoint same
  rw [heap, endpoints] at modified
  rw [modified]
  exact .single (.reply ep lent)

theorem step_flows {s t : World} {input : Input} (possible : Possible s input)
    (run : step s input = .ok t) : Flows s.traffic t.traffic := by
  unfold step at run
  cases handled : handleInput input s with
  | error fault =>
      rw [handled] at run
      cases run
  | ok result =>
      obtain ⟨u, after⟩ := result
      rw [handled] at run
      cases run
      cases input with
      | hciCommand data =>
          obtain ⟨result, s1, first, last⟩ := bind_ok.mp handled
          cases last
          exact hciCommand_flows first
      | aclOut data =>
          obtain ⟨result, s1, first, last⟩ := bind_ok.mp handled
          cases last
          exact aclOut_flows first
      | bufferRequest ep msg => exact bufferRequest_flows handled
      | handDownReply ep retval written => exact oh1ResourceReply_flows possible.1 handled
      | timer events => exact (steady_periodicTimer events).flows handled

theorem Flows.invariant {f g : Traffic} (property : Traffic → Prop) (flows : Flows f g)
    (start : property f) (kept : ∀ f g, property f → Flow f g → property g) : property g := by
  induction flows with
  | refl => exact start
  | tail _ last ih => exact kept _ _ ih last

theorem inject_endpoint {heap : Heap} {e : Endpoint} {packet : Packet} {done : Injection}
    (run : inject heap e packet = .ok done) :
    done.endpoint = e ∨ ∃ msg, done.endpoint = (e.handleBulkIntrReadyMessage (.injected msg)).1 := by
  unfold inject at run
  split at run
  · cases run
    exact Or.inl rfl
  · right
    rename_i msg _
    cases source : packet.bytes with
    | error fault =>
        rw [source] at run
        cases run
    | ok bytes =>
        rw [source] at run
        simp only [bind, Except.bind] at run
        split at run
        · cases run
        · cases run
          exact ⟨_, rfl⟩

theorem Flow.endpoint {f g : Traffic} (flow : Flow f g) (ep : EndpointId) :
    g.endpoint ep = f.endpoint ep ∨ ∃ action, (f.endpoint ep).Replies action ∧
      (f.endpoint ep).act action = .ok (g.endpoint ep) := by
  have elsewhere {at_ : EndpointId} {e : Endpoint}
      (here : ep = at_ → e = f.endpoint ep ∨ ∃ action, (f.endpoint ep).Replies action ∧
        (f.endpoint ep).act action = .ok e) :
      update f.endpoint at_ e ep = f.endpoint ep ∨ ∃ action, (f.endpoint ep).Replies action ∧
        (f.endpoint ep).act action = .ok (update f.endpoint at_ e ep) := by
    by_cases same : ep = at_
    · subst same
      rw [update_self]
      exact here rfl
    · rw [update_of_ne same]
      exact Or.inl rfl
  cases flow with
  | inject at_ run =>
      apply elsewhere
      rintro rfl
      rcases inject_endpoint run with same | ⟨msg, result⟩
      · exact Or.inl same
      · exact Or.inr ⟨.inject msg, trivial, by rw [result]; rfl⟩
  | @request at_ msg e out run =>
      apply elsewhere
      rintro rfl
      exact Or.inr ⟨.request msg, trivial, by simp only [Endpoint.act, run]⟩
  | reply at_ lent =>
      apply elsewhere
      rintro rfl
      exact Or.inr ⟨.complete _ _, lent, rfl⟩

theorem Flow.sound {f g : Traffic} (sound : ∀ ep, (f.endpoint ep).Sound) (flow : Flow f g) :
    ∀ ep, (g.endpoint ep).Sound := by
  intro ep
  rcases flow.endpoint ep with same | ⟨action, replies, run⟩
  · rw [same]
    exact sound ep
  · exact (sound ep).act replies run

/-- What no flow changes in an endpoint: its capacities and the answers of IOS. -/
def Endpoint.limits (e : Endpoint) : Nat × Nat × (Nat → Bool) :=
  (e.readyCap, e.pendingCap, e.refuse)

theorem ready_limits (e : Endpoint) (msg : ReadyMsg) :
    (e.handleBulkIntrReadyMessage msg).1.limits = e.limits := by
  have acked (e : Endpoint) (pending : IpcMessage) :
      (Endpoint.copyAndAckIpcmessage e pending msg).1.limits = e.limits := by
    cases msg <;> rfl
  rcases e.handleBulkIntrReadyMessage_cases msg with ⟨pending, rest, -, result⟩ | ⟨-, result⟩ |
    ⟨-, result⟩
  · rw [result, acked]
    rfl
  · rw [result]
    rfl
  · rw [result]
    rfl

theorem act_limits {e t : Endpoint} {action : Endpoint.Action} (run : e.act action = .ok t) :
    t.limits = e.limits := by
  cases action with
  | request msg =>
      simp only [Endpoint.act] at run
      split at run
      case h_1 received =>
          cases run
          rcases Endpoint.receiveMessage_cases received with ⟨ready, rest, -, -, rfl⟩ |
            ⟨-, -, -, rfl⟩ | ⟨-, -, -, rfl⟩ | ⟨-, -, rfl⟩
          · cases ready <;> rfl
          · rfl
          · rfl
          · rfl
      case h_2 => cases run
  | inject msg =>
      cases run
      exact ready_limits e _
  | complete retval buffer =>
      cases run
      exact ready_limits _ _

theorem Flow.limits {f g : Traffic} (flow : Flow f g) (ep : EndpointId) :
    (g.endpoint ep).limits = (f.endpoint ep).limits := by
  rcases flow.endpoint ep with same | ⟨action, -, run⟩
  · rw [same]
  · exact act_limits run

end Fakemote
