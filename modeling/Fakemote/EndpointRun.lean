import Fakemote.Endpoint
import Fakemote.Library.Transition
import Mathlib.Data.List.Perm.Basic

/-! One endpoint as a machine that three parties drive: the host with buffer requests, the
injector with messages, OH1 with replies to the hand-down message. The invariant ties the two
queues to the requests taken and the contents delivered, and the hand-down message to its flag. -/

namespace Fakemote

open Transition

namespace Endpoint

inductive Action
  | request (msg : IpcMessage)
  | inject (msg : InjMessage)
  | complete (retval : Int) (buffer : List UInt8)

def act (e : Endpoint) : Action → Except Fault Endpoint
  | .request msg =>
      match e.receiveMessage msg with
      | .ok (t, _) => .ok t
      | .error fault => .error fault
  | .inject msg => .ok (e.handleBulkIntrReadyMessage (.injected msg)).1
  | .complete retval buffer => .ok (e.resourceReply retval buffer).1

def Replies (e : Endpoint) : Action → Prop
  | .complete _ _ => 0 < e.outstanding
  | _ => True

def droppedRequests (e : Endpoint) : List IpcMessage :=
  e.dropped.filterMap fun
    | .request msg => some msg
    | .message _ => none

structure Sound (e : Endpoint) : Prop where
  disjoint : e.pendingQ = [] ∨ e.readyQ = []
  produced : e.produced = e.acks.map Prod.snd ++ e.readyQ.map e.content
  ordered : e.dropped = [] → e.requests = e.acks.map Prod.fst ++ e.pendingQ
  taken : e.requests.Perm (e.acks.map Prod.fst ++ e.pendingQ ++ e.droppedRequests)
  flag : e.outstanding = if e.handDownPending then 1 else 0
  single : e.readyQ.count .handDown + e.outstanding ≤ 1

theorem init_sound (readyCap pendingCap : Nat) (refuse : Nat → Bool) :
    Sound (init readyCap pendingCap refuse) where
  disjoint := Or.inl rfl
  produced := rfl
  ordered := fun _ => rfl
  taken := List.Perm.refl _
  flag := rfl
  single := by simp [init]

theorem receiveMessage_cases {e t : Endpoint} {msg : IpcMessage} {out : Option ToOh1}
    (run : e.receiveMessage msg = .ok (t, out)) :
    (∃ ready rest, e.readyQ = ready :: rest ∧ out = none ∧
      t = (copyAndAckIpcmessage { e with requests := e.requests ++ [msg], readyQ := rest }
        msg ready).1) ∨
    (e.readyQ = [] ∧ e.handDownPending = false ∧ out = some .handDown ∧
      t = { e with
        requests := e.requests ++ [msg]
        pendingQ := e.pendingQ ++ [msg]
        sends := e.sends + 1
        handDown := { e.handDown with wLength := msg.wLength, fd := msg.fd }
        handDownPending := true
        outstanding := e.outstanding + 1 }) ∨
    (e.readyQ = [] ∧ e.handDownPending = true ∧ out = none ∧
      t = { e with
        requests := e.requests ++ [msg]
        pendingQ := e.pendingQ ++ [msg]
        sends := e.sends + 1 }) ∨
    (e.readyQ = [] ∧ out = none ∧
      t = { e with
        requests := e.requests ++ [msg]
        sends := e.sends + 1
        dropped := e.dropped ++ [.request msg] }) := by
  unfold receiveMessage handleBulkIntrPendingMessage at run
  rcases ready : e.readyQ with _ | ⟨readyMsg, rest⟩
  · right
    simp only [ready, sendPending] at run
    by_cases room : e.pendingQ.length < e.pendingCap ∧ e.refuse e.sends = false
    · by_cases pending : e.handDownPending = true
      · simp only [room, pending] at run
        simp at run
        right; left
        exact ⟨rfl, pending, run.2.symm, by rw [pending]; exact run.1.symm⟩
      · simp only [Bool.not_eq_true] at pending
        left
        by_cases size : msg.wLength.toNat ≤ handDownMsgDataSize
        · simp [room, pending, configureHandDownMsg, size] at run
          exact ⟨rfl, pending, run.2.symm, run.1.symm⟩
        · simp [room, pending, configureHandDownMsg, size] at run
    · right; right
      simp [room] at run
      exact ⟨rfl, run.2.symm, run.1.symm⟩
  · left
    simp only [ready, Except.ok.injEq, Prod.mk.injEq, Bool.false_eq_true, if_false] at run
    exact ⟨readyMsg, rest, rfl, run.2.symm, run.1.symm⟩

theorem handleBulkIntrReadyMessage_cases (e : Endpoint) (msg : ReadyMsg) :
    (∃ pending rest, e.pendingQ = pending :: rest ∧
      e.handleBulkIntrReadyMessage msg = copyAndAckIpcmessage
        { e with pendingQ := rest, produced := e.produced ++ [e.content msg] } pending msg) ∨
    (e.pendingQ = [] ∧ e.handleBulkIntrReadyMessage msg = ({ e with
        readyQ := e.readyQ ++ [msg]
        sends := e.sends + 1
        produced := e.produced ++ [e.content msg] }, .iosOk)) ∨
    (e.pendingQ = [] ∧ e.handleBulkIntrReadyMessage msg = ({ e with
        sends := e.sends + 1
        dropped := e.dropped ++ [.message msg] }, .iosEqueueFull)) := by
  unfold handleBulkIntrReadyMessage
  rcases pending : e.pendingQ with _ | ⟨pendMsg, rest⟩
  · right
    by_cases room : e.readyQ.length < e.readyCap ∧ e.refuse e.sends = false
    · left
      simp [sendReady, room, pending]
    · right
      simp [sendReady, room, pending]
  · left
    exact ⟨pendMsg, rest, rfl, rfl⟩

/-- A request is never handed on to OH1 itself: what OH1 gets is the hand-down message. -/
theorem receiveMessage_not_forwarded {e t : Endpoint} {msg : IpcMessage} {out : Option ToOh1}
    (run : e.receiveMessage msg = .ok (t, out)) : out = none ∨ out = some .handDown := by
  rcases receiveMessage_cases run with ⟨_, _, _, h, _⟩ | ⟨_, _, h, _⟩ | ⟨_, _, h, _⟩ | ⟨_, h, _⟩
  · exact Or.inl h
  · exact Or.inr h
  · exact Or.inl h
  · exact Or.inl h

section Ack

variable (e : Endpoint) (pending : IpcMessage) (ready : ReadyMsg)

@[simp] theorem ack_acks : (copyAndAckIpcmessage e pending ready).1.acks =
    e.acks ++ [(pending, e.content ready)] := by
  cases ready <;> rfl

@[simp] theorem ack_readyQ : (copyAndAckIpcmessage e pending ready).1.readyQ = e.readyQ := by
  cases ready <;> rfl

@[simp] theorem ack_pendingQ :
    (copyAndAckIpcmessage e pending ready).1.pendingQ = e.pendingQ := by
  cases ready <;> rfl

@[simp] theorem ack_requests :
    (copyAndAckIpcmessage e pending ready).1.requests = e.requests := by
  cases ready <;> rfl

@[simp] theorem ack_produced :
    (copyAndAckIpcmessage e pending ready).1.produced = e.produced := by
  cases ready <;> rfl

@[simp] theorem ack_dropped : (copyAndAckIpcmessage e pending ready).1.dropped = e.dropped := by
  cases ready <;> rfl

@[simp] theorem ack_handDown :
    (copyAndAckIpcmessage e pending ready).1.handDown = e.handDown := by
  cases ready <;> rfl

@[simp] theorem ack_handDownPending :
    (copyAndAckIpcmessage e pending ready).1.handDownPending = e.handDownPending := by
  cases ready <;> rfl

@[simp] theorem ack_outstanding :
    (copyAndAckIpcmessage e pending ready).1.outstanding = e.outstanding := by
  cases ready <;> rfl

@[simp] theorem ack_ret : (copyAndAckIpcmessage e pending ready).2 = .iosOk := by
  cases ready <;> rfl

end Ack

theorem content_congr {e t : Endpoint} (same : t.handDown = e.handDown) : t.content = e.content := by
  funext msg
  cases msg with
  | injected msg => rfl
  | handDown => simp [content, same]

theorem content_injected {e t : Endpoint} {queue : List ReadyMsg}
    (absent : ReadyMsg.handDown ∉ queue) : queue.map t.content = queue.map e.content := by
  apply List.map_congr_left
  intro msg member
  cases msg with
  | injected msg => rfl
  | handDown => exact absurd member absent

theorem Sound.receiveMessage {e t : Endpoint} {msg : IpcMessage} {out : Option ToOh1}
    (sound : e.Sound) (run : e.receiveMessage msg = .ok (t, out)) : t.Sound := by
  rcases receiveMessage_cases run with ⟨ready, rest, queue, -, rfl⟩ | ⟨queue, flag, -, rfl⟩ |
    ⟨queue, flag, -, rfl⟩ | ⟨queue, -, rfl⟩
  · have waiting : e.pendingQ = [] := by
      rcases sound.disjoint with pending | empty
      · exact pending
      · rw [queue] at empty
        cases empty
    have same : (copyAndAckIpcmessage { e with requests := e.requests ++ [msg], readyQ := rest }
        msg ready).1.content = e.content := content_congr (by simp)
    have produced := sound.produced
    have single := sound.single
    have taken := sound.taken
    rw [queue] at produced single
    rw [waiting, List.append_nil] at taken
    constructor
    · left
      simpa using waiting
    · rw [same]
      simpa [content_congr (t := { e with requests := e.requests ++ [msg], readyQ := rest })
        (e := e) rfl] using produced
    · intro none
      have before := sound.ordered (by simpa using none)
      rw [waiting, List.append_nil] at before
      simp [before, waiting]
    · have moved := taken.append_right [msg]
      rw [List.append_assoc] at moved
      simpa [droppedRequests, waiting, List.append_assoc] using
        moved.trans ((@List.perm_append_comm _ _ [msg]).append_left _)
    · simpa using sound.flag
    · simp only [ack_readyQ, ack_outstanding]
      have fewer : rest.count .handDown ≤ (ready :: rest).count .handDown :=
        List.count_le_count_cons
      omega
  · have taken := (sound.taken.append_right [msg])
    constructor
    · right
      simpa using queue
    · simpa [queue, content_congr] using sound.produced
    · intro none
      simp [sound.ordered (by simpa using none)]
    · rw [List.append_assoc] at taken
      simpa [droppedRequests, List.append_assoc] using
        taken.trans ((@List.perm_append_comm _ _ [msg]).append_left _)
    · have before := sound.flag
      simp [flag] at before
      simp [before]
    · have before := sound.flag
      simp [flag] at before
      simp [queue, before]
  · have taken := (sound.taken.append_right [msg])
    constructor
    · right
      simpa using queue
    · simpa [queue] using sound.produced
    · intro none
      simp [sound.ordered (by simpa using none)]
    · rw [List.append_assoc] at taken
      simpa [droppedRequests, List.append_assoc] using
        taken.trans ((@List.perm_append_comm _ _ [msg]).append_left _)
    · exact sound.flag
    · exact sound.single
  · have taken := (sound.taken.append_right [msg])
    constructor
    · exact sound.disjoint
    · exact sound.produced
    · intro none
      simp at none
    · simpa [droppedRequests, List.append_assoc] using taken
    · exact sound.flag
    · exact sound.single

theorem Sound.handleBulkIntrReadyMessage {e : Endpoint} {msg : ReadyMsg} (sound : e.Sound)
    (own : e.readyQ.count .handDown + e.outstanding + [msg].count .handDown ≤ 1) :
    (e.handleBulkIntrReadyMessage msg).1.Sound := by
  rcases handleBulkIntrReadyMessage_cases e msg with ⟨pending, rest, queue, result⟩ |
    ⟨queue, result⟩ | ⟨queue, result⟩
  · have empty : e.readyQ = [] := by
      rcases sound.disjoint with none | ready
      · rw [queue] at none
        cases none
      · exact ready
    rw [result]
    constructor
    · right
      simpa using empty
    · have before := sound.produced
      rw [empty, List.map_nil, List.append_nil] at before
      simp only [ack_produced, ack_acks, ack_readyQ, empty, before, List.map_append,
        List.map_cons, List.map_nil, List.append_nil]
      rfl
    · intro none
      have before := sound.ordered (by simpa using none)
      rw [queue] at before
      simp [before]
    · have taken := sound.taken
      rw [queue] at taken
      simpa [droppedRequests] using taken
    · simpa using sound.flag
    · simpa using sound.single
  · rw [result]
    constructor
    · left
      exact queue
    · have same : Endpoint.content { e with
          readyQ := e.readyQ ++ [msg]
          sends := e.sends + 1
          produced := e.produced ++ [e.content msg] } = e.content := content_congr rfl
      dsimp only
      rw [same, sound.produced, List.map_append, List.append_assoc]
      rfl
    · exact sound.ordered
    · exact sound.taken
    · exact sound.flag
    · simp only [List.count_append]
      omega
  · rw [result]
    constructor
    · exact sound.disjoint
    · exact sound.produced
    · intro none
      simp at none
    · simpa [droppedRequests] using sound.taken
    · exact sound.flag
    · exact sound.single

/-- The reply ends the loan of the buffer, which no queued message refers to. -/
theorem Sound.returned {e : Endpoint} (sound : e.Sound) (lent : 0 < e.outstanding)
    (data : List UInt8) (result : Int) :
    Sound { e with
      handDownPending := false
      outstanding := e.outstanding - 1
      handDown := { e.handDown with data := data, result := result } } := by
  have single := sound.single
  have absent : ReadyMsg.handDown ∉ e.readyQ := by
    apply List.count_eq_zero.mp
    omega
  have last : e.outstanding = 1 := by omega
  constructor
  · exact sound.disjoint
  · exact (content_injected absent).symm ▸ sound.produced
  · exact sound.ordered
  · exact sound.taken
  · simp [last]
  · simp only
    omega

theorem Sound.resourceReply {e : Endpoint} (sound : e.Sound) (lent : 0 < e.outstanding)
    (retval : Int) (buffer : List UInt8) : (e.resourceReply retval buffer).1.Sound := by
  have single := sound.single
  apply (sound.returned lent buffer retval).handleBulkIntrReadyMessage
  simp only [List.count_singleton_self]
  omega

theorem Sound.act {e t : Endpoint} {action : Action} (sound : e.Sound)
    (replies : e.Replies action) (run : e.act action = .ok t) : t.Sound := by
  cases action with
  | request msg =>
      simp only [Endpoint.act] at run
      split at run
      case h_1 result =>
          cases run
          exact sound.receiveMessage result
      case h_2 => cases run
  | inject msg =>
      cases run
      have single := sound.single
      exact sound.handleBulkIntrReadyMessage (by simpa using single)
  | complete retval buffer =>
      cases run
      exact sound.resourceReply replies retval buffer

structure History where
  asked : List IpcMessage
  offered : List Reply

def History.record (history : History) (_ : Endpoint) (action : Action) (_ : Endpoint) : History :=
  match action with
  | .request msg => { history with asked := history.asked ++ [msg] }
  | .inject msg => { history with offered := history.offered ++ [⟨msg.data.length, msg.data⟩] }
  | .complete retval buffer =>
      { history with offered := history.offered ++ [handDownContent retval buffer] }

/-- The endpoint took every request, and delivers every content unless a send failed. -/
structure Told (e : Endpoint) (history : History) : Prop where
  asked : e.requests = history.asked
  offered : e.dropped = [] → e.produced = history.offered

theorem receiveMessage_told {e t : Endpoint} {msg : IpcMessage} {out : Option ToOh1}
    (run : e.receiveMessage msg = .ok (t, out)) :
    t.requests = e.requests ++ [msg] ∧ t.produced = e.produced ∧
      (t.dropped = [] → e.dropped = []) := by
  rcases receiveMessage_cases run with ⟨ready, rest, -, -, rfl⟩ | ⟨-, -, -, rfl⟩ |
    ⟨-, -, -, rfl⟩ | ⟨-, -, rfl⟩
  · simp
  · exact ⟨rfl, rfl, id⟩
  · exact ⟨rfl, rfl, id⟩
  · simp

theorem handleBulkIntrReadyMessage_told (e : Endpoint) (msg : ReadyMsg) :
    (e.handleBulkIntrReadyMessage msg).1.requests = e.requests ∧
      ((e.handleBulkIntrReadyMessage msg).1.dropped = [] → e.dropped = [] ∧
        (e.handleBulkIntrReadyMessage msg).1.produced = e.produced ++ [e.content msg]) := by
  rcases handleBulkIntrReadyMessage_cases e msg with ⟨pending, rest, -, same⟩ | ⟨-, same⟩ |
    ⟨-, same⟩
  · simp [same]
  · simp [same]
  · simp [same]

theorem Told.act {e t : Endpoint} {action : Action} {history : History} (told : Told e history)
    (run : e.act action = .ok t) : Told t (history.record e action t) := by
  cases action with
  | request msg =>
      simp only [Endpoint.act] at run
      split at run
      case h_1 result =>
          cases run
          obtain ⟨requests, produced, kept⟩ := receiveMessage_told result
          refine ⟨by rw [requests, told.asked]; rfl, ?_⟩
          intro none
          rw [produced]
          exact told.offered (kept none)
      case h_2 => cases run
  | inject msg =>
      cases run
      obtain ⟨requests, delivered⟩ := handleBulkIntrReadyMessage_told e (.injected msg)
      refine ⟨requests.trans told.asked, ?_⟩
      intro none
      rw [(delivered none).2, told.offered (delivered none).1]
      rfl
  | complete retval buffer =>
      cases run
      obtain ⟨requests, delivered⟩ := handleBulkIntrReadyMessage_told
        { e with
          handDownPending := false
          outstanding := e.outstanding - 1
          handDown := { e.handDown with data := buffer, result := retval } } .handDown
      refine ⟨requests.trans told.asked, ?_⟩
      intro none
      have unchanged := told.offered (delivered none).1
      change _ = history.offered ++ _
      rw [← unchanged]
      exact (delivered none).2

/-- Requests are served in order and never forwarded, contents are delivered in order, the
queues are never both in use, and the hand-down message has one owner at a time. -/
theorem interleavings_deliver_in_order (readyCap pendingCap : Nat) (refuse : Nat → Bool)
    (e : Endpoint) (history : History)
    (reached : Reachable (observed act History.record) (fun state action => state.1.Replies action)
      (init readyCap pendingCap refuse, ⟨[], []⟩) (e, history))
    (noneFailed : e.dropped = []) :
    e.acks.map Prod.fst ++ e.pendingQ = history.asked ∧
    (∀ msg t out, e.receiveMessage msg = .ok (t, out) → out ≠ some (.host msg)) ∧
    (e.pendingQ = [] ∨ e.readyQ = []) ∧
    e.readyQ.count .handDown ≤ 1 ∧
    (0 < e.outstanding → ReadyMsg.handDown ∉ e.readyQ) ∧
    e.acks.map Prod.snd ++ e.readyQ.map e.content = history.offered := by
  have invariant : e.Sound ∧ Told e history := by
    refine reached.invariant (fun state => state.1.Sound ∧ Told state.1 state.2) ?_ ?_
    · exact ⟨init_sound readyCap pendingCap refuse, rfl, fun _ => rfl⟩
    · intro before after action holds replies observing
      obtain ⟨t, run, rfl⟩ := observed_ok.mp observing
      exact ⟨holds.1.act replies run, holds.2.act run⟩
  obtain ⟨sound, told⟩ := invariant
  have single := sound.single
  refine ⟨?_, ?_, sound.disjoint, by omega, ?_, ?_⟩
  · rw [← told.asked]
    exact (sound.ordered noneFailed).symm
  · intro msg t out run
    rcases receiveMessage_not_forwarded run with rfl | rfl
    · simp
    · simp
  · intro lent
    apply List.count_eq_zero.mp
    omega
  · rw [← told.offered noneFailed]
    exact sound.produced.symm

instance decidableReplies (e : Endpoint) : (action : Action) → Decidable (e.Replies action)
  | .complete _ _ => inferInstanceAs (Decidable (0 < e.outstanding))
  | .request _ | .inject _ => .isTrue trivial

/-- The host asks once, is given an injected message, and OH1's reply waits for it. -/
theorem interleavings_deliver_in_order_one_request :
    ∃ e history, Reachable (observed act History.record)
        (fun state action => state.1.Replies action)
        (init 8 8 fun _ => false, ⟨[], []⟩) (e, history) ∧
      history.offered = [⟨2, [0x0F, 0]⟩, ⟨1, [7]⟩] ∧ e.acks.length = 1 ∧
      e.acks.map Prod.fst ++ e.pendingQ = history.asked ∧
      e.acks.map Prod.snd ++ e.readyQ.map e.content = history.offered := by
  obtain ⟨⟨e, history⟩, reached, check⟩ : ∃ state, Reachable (observed act History.record)
      (fun state action => state.1.Replies action)
      (init 8 8 fun _ => false, ⟨[], []⟩) state ∧
      decide (state.1.dropped = [] ∧ state.2.offered = [⟨2, [0x0F, 0]⟩, ⟨1, [7]⟩] ∧
        state.1.acks.length = 1) = true :=
    exists_of_execute [.request ⟨0, 0, 64⟩, .inject ⟨0, [0x0F, 0]⟩, .complete 1 [7, 8]]
      (by decide +kernel)
  obtain ⟨noneFailed, offered, acked⟩ := of_decide_eq_true check
  have inOrder := interleavings_deliver_in_order 8 8 (fun _ => false) e history reached noneFailed
  exact ⟨e, history, reached, offered, acked, inOrder.1, inOrder.2.2.2.2.2⟩

end Endpoint

end Fakemote
