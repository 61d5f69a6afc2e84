import Fakemote.EndpointRun

/-! The hand-down message as the USB read behind the waiting requests. It is handed down with the
request that finds it free, and each reply takes it back, so that a request left waiting by a reply
has nothing behind it until the next one comes. -/

namespace Fakemote

open Transition

namespace Endpoint

/-- A waiting request has the hand-down message outstanding. -/
def Backed (e : Endpoint) : Prop :=
  e.pendingQ ≠ [] → e.handDownPending = true ∧ 0 < e.outstanding

/-- A reply to the hand-down message finds at most one request waiting. -/
def LastWaiting (e : Endpoint) : Action → Prop
  | .complete _ _ => e.pendingQ.length ≤ 1
  | _ => True

theorem Backed.receiveMessage {e t : Endpoint} {msg : IpcMessage} {out : Option ToOh1}
    (backed : e.Backed) (sound : e.Sound) (run : e.receiveMessage msg = .ok (t, out)) :
    t.Backed := by
  rcases receiveMessage_cases run with ⟨ready, rest, -, -, rfl⟩ | ⟨-, -, -, rfl⟩ |
    ⟨-, flag, -, rfl⟩ | ⟨-, -, rfl⟩
  · intro waiting
    simp only [ack_pendingQ] at waiting
    have before := backed waiting
    simpa using before
  · intro waiting
    exact ⟨rfl, Nat.succ_pos e.outstanding⟩
  · intro waiting
    have lent := sound.flag
    rw [flag] at lent
    refine ⟨flag, ?_⟩
    change 0 < e.outstanding
    simp [lent]
  · exact backed

theorem handleBulkIntrReadyMessage_handDownPending (e : Endpoint) (msg : ReadyMsg) :
    (e.handleBulkIntrReadyMessage msg).1.handDownPending = e.handDownPending := by
  rcases handleBulkIntrReadyMessage_cases e msg with ⟨pending, rest, -, same⟩ | ⟨-, same⟩ |
    ⟨-, same⟩
  · simp [same]
  · simp [same]
  · simp [same]

theorem handleBulkIntrReadyMessage_outstanding (e : Endpoint) (msg : ReadyMsg) :
    (e.handleBulkIntrReadyMessage msg).1.outstanding = e.outstanding := by
  rcases handleBulkIntrReadyMessage_cases e msg with ⟨pending, rest, -, same⟩ | ⟨-, same⟩ |
    ⟨-, same⟩
  · simp [same]
  · simp [same]
  · simp [same]

theorem handleBulkIntrReadyMessage_pendingQ (e : Endpoint) (msg : ReadyMsg) :
    (e.handleBulkIntrReadyMessage msg).1.pendingQ = e.pendingQ.tail := by
  rcases handleBulkIntrReadyMessage_cases e msg with ⟨pending, rest, queue, same⟩ |
    ⟨queue, same⟩ | ⟨queue, same⟩
  · simp [same, queue]
  · simp [same, queue]
  · simp [same, queue]

theorem Backed.inject {e : Endpoint} (backed : e.Backed) (msg : InjMessage) :
    (e.handleBulkIntrReadyMessage (.injected msg)).1.Backed := by
  intro waiting
  rw [handleBulkIntrReadyMessage_pendingQ] at waiting
  rw [handleBulkIntrReadyMessage_handDownPending, handleBulkIntrReadyMessage_outstanding]
  apply backed
  intro none
  simp [none] at waiting

theorem resourceReply_handDownPending (e : Endpoint) (retval : Int) (buffer : List UInt8) :
    (e.resourceReply retval buffer).1.handDownPending = false :=
  handleBulkIntrReadyMessage_handDownPending _ _

theorem resourceReply_pendingQ (e : Endpoint) (retval : Int) (buffer : List UInt8) :
    (e.resourceReply retval buffer).1.pendingQ = e.pendingQ.tail :=
  handleBulkIntrReadyMessage_pendingQ _ _

/-- A reply leaves no request without a read behind it if and only if it serves the last one. -/
theorem resourceReply_backed (e : Endpoint) (retval : Int) (buffer : List UInt8) :
    (e.resourceReply retval buffer).1.Backed ↔ e.pendingQ.length ≤ 1 := by
  have down := resourceReply_handDownPending e retval buffer
  have served := resourceReply_pendingQ e retval buffer
  constructor
  · intro backed
    by_contra more
    have waiting : (e.resourceReply retval buffer).1.pendingQ ≠ [] := by
      intro none
      have left := congrArg List.length (served.symm.trans none)
      simp only [List.length_tail, List.length_nil] at left
      omega
    have flag := (backed waiting).1
    rw [down] at flag
    cases flag
  · intro last waiting
    apply absurd _ waiting
    rw [served]
    apply List.eq_nil_of_length_eq_zero
    rw [List.length_tail]
    omega

/-- From a state whose waiting requests have a read behind them, a step leaves them so if and only
if it is no reply that finds two of them. -/
theorem act_backed {e t : Endpoint} {action : Action} (backed : e.Backed) (sound : e.Sound)
    (run : e.act action = .ok t) : t.Backed ↔ e.LastWaiting action := by
  cases action with
  | request msg =>
      simp only [Endpoint.act] at run
      split at run
      case h_1 result =>
          cases run
          exact iff_of_true (backed.receiveMessage sound result) trivial
      case h_2 => cases run
  | inject msg =>
      cases run
      exact iff_of_true (backed.inject msg) trivial
  | complete retval buffer =>
      cases run
      exact resourceReply_backed e retval buffer

/-- As long as every reply serves the last waiting request, a waiting request has the hand-down
message outstanding; a reply that finds more of them leaves one with nothing behind it. -/
theorem waiting_requests_backed (readyCap pendingCap : Nat) (refuse : Nat → Bool) (e : Endpoint)
    (reached : Reachable act (fun e action => e.Replies action ∧ e.LastWaiting action)
      (init readyCap pendingCap refuse) e) :
    e.Backed ∧ ∀ action t, e.act action = .ok t → (t.Backed ↔ e.LastWaiting action) := by
  have invariant : e.Sound ∧ e.Backed := by
    refine reached.invariant (fun e => e.Sound ∧ e.Backed) ?_ ?_
    · exact ⟨init_sound readyCap pendingCap refuse, fun waiting => absurd rfl waiting⟩
    · intro before after action holds legal run
      have backed := (act_backed holds.2 holds.1 run).mpr legal.2
      exact ⟨holds.1.act legal.1 run, backed⟩
  exact ⟨invariant.2, fun action t run => act_backed invariant.2 invariant.1 run⟩

instance decidableLastWaiting (e : Endpoint) :
    (action : Action) → Decidable (e.LastWaiting action)
  | .complete _ _ => inferInstanceAs (Decidable (e.pendingQ.length ≤ 1))
  | .request _ | .inject _ => .isTrue trivial

instance decidableBacked (e : Endpoint) : Decidable e.Backed :=
  inferInstanceAs (Decidable (e.pendingQ ≠ [] → e.handDownPending = true ∧ 0 < e.outstanding))

/-- The host asks, is answered, and asks again. -/
theorem waiting_requests_backed_one_at_a_time :
    ∃ e, Reachable act (fun e action => e.Replies action ∧ e.LastWaiting action)
        (init 8 8 fun _ => false) e ∧ e.pendingQ.length = 1 ∧ e.Backed := by
  obtain ⟨e, reached, check⟩ : ∃ e, Reachable act
      (fun e action => e.Replies action ∧ e.LastWaiting action) (init 8 8 fun _ => false) e ∧
      decide (e.pendingQ.length = 1) = true :=
    exists_of_execute [.request ⟨0, 0, 64⟩, .complete 1 [7, 8], .request ⟨1, 0, 64⟩]
      (by decide +kernel)
  exact ⟨e, reached, of_decide_eq_true check, (waiting_requests_backed 8 8 _ e reached).1⟩

/-- Two requests wait when the reply comes; the second is left with no read behind it. -/
theorem second_request_unbacked :
    ∃ e, Reachable act (fun e action => e.Replies action) (init 8 8 fun _ => false) e ∧
      ¬ e.Backed := by
  obtain ⟨e, reached, check⟩ : ∃ e, Reachable act (fun e action => e.Replies action)
      (init 8 8 fun _ => false) e ∧ decide (¬ e.Backed) = true :=
    exists_of_execute [.request ⟨0, 0, 64⟩, .request ⟨1, 0, 64⟩, .complete 1 [7, 8]]
      (by decide +kernel)
  exact ⟨e, reached, of_decide_eq_true check⟩

end Endpoint

end Fakemote
