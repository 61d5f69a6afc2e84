import Fakemote.EndpointRun
import Mathlib.Data.List.Zip

/-! The sizes of what an endpoint copies into the buffers of the host. The contents and the
requests that are kept meet in order, so the one that enters `k`-th is copied into the buffer of
the request that enters `k`-th. -/

namespace Fakemote

open Transition

namespace Endpoint

/-- A request finds a message ready or room in the PendingQ, a message finds a request pending or
room in the ReadyQ. -/
def Keeps (e : Endpoint) : Action → Prop
  | .request _ =>
      e.readyQ ≠ [] ∨ (e.pendingQ.length < e.pendingCap ∧ e.refuse e.sends = false)
  | .inject _ | .complete _ _ =>
      e.pendingQ ≠ [] ∨ (e.readyQ.length < e.readyCap ∧ e.refuse e.sends = false)

instance decidableKeeps (e : Endpoint) : (action : Action) → Decidable (e.Keeps action)
  | .request _ => inferInstanceAs (Decidable (_ ∨ _))
  | .inject _ | .complete _ _ => inferInstanceAs (Decidable (_ ∨ _))

def History.keep (history : History) (e : Endpoint) (action : Action) (t : Endpoint) : History :=
  if e.Keeps action then history.record e action t else history

/-- The requests of the host are no larger than the hand-down buffer, and OH1 returns at most the
size that the hand-down message was configured with. -/
def Sized (e : Endpoint) : Action → Prop
  | .request msg => msg.wLength.toNat ≤ handDownMsgDataSize
  | .inject _ => True
  | .complete retval buffer =>
      0 < e.outstanding ∧ retval ≤ e.handDown.wLength.toNat ∧ buffer.length = handDownMsgDataSize

theorem Sized.replies {e : Endpoint} {action : Action} (sized : e.Sized action) :
    e.Replies action := by
  cases action with
  | request msg => trivial
  | inject msg => trivial
  | complete retval buffer => exact sized.1

/-- Everything that was copied fits in the buffer of the request it was copied into. -/
def Fits (e : Endpoint) : Prop := ∀ ack ∈ e.acks, ack.2.data.length ≤ ack.1.wLength.toNat

theorem sendPending_dropped (e : Endpoint) (msg : IpcMessage) :
    (e.sendPending msg).1.dropped = e.dropped ↔
      e.pendingQ.length < e.pendingCap ∧ e.refuse e.sends = false := by
  unfold sendPending
  by_cases room : e.pendingQ.length < e.pendingCap ∧ e.refuse e.sends = false
  · simp [room]
  · simp [room]

theorem sendReady_dropped (e : Endpoint) (msg : ReadyMsg) :
    (e.sendReady msg).1.dropped = e.dropped ↔
      e.readyQ.length < e.readyCap ∧ e.refuse e.sends = false := by
  unfold sendReady
  by_cases room : e.readyQ.length < e.readyCap ∧ e.refuse e.sends = false
  · simp [room]
  · simp [room]

theorem configureHandDownMsg_dropped {e t : Endpoint} {fd : Int} {wLength : UInt16}
    (run : e.configureHandDownMsg fd wLength = .ok t) : t.dropped = e.dropped := by
  unfold configureHandDownMsg at run
  split at run
  case isTrue => cases run; rfl
  case isFalse => cases run

theorem receiveMessage_keeps {e t : Endpoint} {msg : IpcMessage} {out : Option ToOh1}
    (run : e.receiveMessage msg = .ok (t, out)) :
    e.Keeps (.request msg) ↔ t.dropped = e.dropped := by
  unfold receiveMessage handleBulkIntrPendingMessage at run
  rcases ready : e.readyQ with _ | ⟨readyMsg, rest⟩
  · have sends := sendPending_dropped
      { e with readyQ := [], requests := e.requests ++ [msg] } msg
    simp only [ready] at run
    generalize sendPending _ msg = sent at run sends
    have same : t.dropped = sent.1.dropped := by
      by_cases handed : sent.2 = .iosOk ∧ sent.1.handDownPending = false
      · rcases configured : sent.1.configureHandDownMsg msg.fd msg.wLength with fault | v
        · simp [handed, configured] at run
        · have kept := configureHandDownMsg_dropped configured
          simp [handed, configured] at run
          rw [← run.1]
          exact kept
      · simp [handed] at run
        rw [run.1]
    rw [same]
    simpa [Keeps, ready] using sends.symm
  · simp only [ready, Except.ok.injEq, Prod.mk.injEq, Bool.false_eq_true, if_false] at run
    simp [Keeps, ready, ← run.1]

theorem handleBulkIntrReadyMessage_keeps (e : Endpoint) (msg : ReadyMsg) :
    (e.pendingQ ≠ [] ∨ (e.readyQ.length < e.readyCap ∧ e.refuse e.sends = false)) ↔
      (e.handleBulkIntrReadyMessage msg).1.dropped = e.dropped := by
  unfold handleBulkIntrReadyMessage
  rcases pending : e.pendingQ with _ | ⟨pendMsg, rest⟩
  · simpa using (sendReady_dropped e msg).symm
  · simp

structure Kept (e : Endpoint) (history : History) : Prop where
  asked : e.acks.map Prod.fst ++ e.pendingQ = history.asked
  offered : e.produced = history.offered

namespace Kept

variable {e t : Endpoint} {history : History}

theorem receiveMessage {msg : IpcMessage} {out : Option ToOh1} (kept : Kept e history)
    (sound : e.Sound) (run : e.receiveMessage msg = .ok (t, out)) :
    Kept t (history.keep e (.request msg) t) := by
  have keeps := receiveMessage_keeps run
  have asked := kept.asked
  have offered := kept.offered
  rcases receiveMessage_cases run with ⟨ready, rest, queue, -, rfl⟩ | ⟨-, -, -, rfl⟩ |
    ⟨-, -, -, rfl⟩ | ⟨-, -, rfl⟩
  · have waiting : e.pendingQ = [] := by
      rcases sound.disjoint with pending | empty
      · exact pending
      · rw [queue] at empty
        cases empty
    rw [History.keep, if_pos (keeps.mpr (by simp))]
    constructor
    · simpa [waiting, History.record] using asked
    · simpa [History.record] using offered
  · rw [History.keep, if_pos (keeps.mpr rfl)]
    constructor
    · simpa [History.record] using congrArg (· ++ [msg]) asked
    · exact offered
  · rw [History.keep, if_pos (keeps.mpr rfl)]
    constructor
    · simpa [History.record] using congrArg (· ++ [msg]) asked
    · exact offered
  · rw [History.keep, if_neg (by simp [keeps])]
    exact ⟨asked, offered⟩

theorem handleBulkIntrReadyMessage {msg : ReadyMsg} (kept : Kept e history) :
    Kept (e.handleBulkIntrReadyMessage msg).1
      (if e.pendingQ ≠ [] ∨ (e.readyQ.length < e.readyCap ∧ e.refuse e.sends = false) then
        { history with offered := history.offered ++ [e.content msg] }
      else history) := by
  have keeps := handleBulkIntrReadyMessage_keeps e msg
  have asked := kept.asked
  have offered := kept.offered
  rcases handleBulkIntrReadyMessage_cases e msg with ⟨pending, rest, queue, same⟩ |
    ⟨queue, same⟩ | ⟨queue, same⟩
  · rw [if_pos (keeps.mpr (by simp [same])), same]
    constructor
    · rw [queue] at asked
      simpa using asked
    · simp [offered]
  · rw [if_pos (keeps.mpr (by simp [same])), same]
    constructor
    · exact asked
    · simp [offered]
  · rw [if_neg (by simp [keeps, same]), same]
    exact ⟨asked, offered⟩

theorem act {action : Action} (kept : Kept e history) (sound : e.Sound)
    (run : e.act action = .ok t) : Kept t (history.keep e action t) := by
  cases action with
  | request msg =>
      simp only [Endpoint.act] at run
      split at run
      case h_1 result =>
          cases run
          exact kept.receiveMessage sound result
      case h_2 => cases run
  | inject msg =>
      cases run
      exact kept.handleBulkIntrReadyMessage
  | complete retval buffer =>
      cases run
      have returned : Kept { e with
          handDownPending := false
          outstanding := e.outstanding - 1
          handDown := { e.handDown with data := buffer, result := retval } } history :=
        ⟨kept.asked, kept.offered⟩
      exact returned.handleBulkIntrReadyMessage

/-- What was acked so far is the requests and contents that were kept, taken in pairs. -/
theorem acks_eq_zip (kept : Kept e history) (sound : e.Sound) :
    e.acks = history.asked.zip history.offered := by
  have pairs : (e.acks.map Prod.fst).zip (e.acks.map Prod.snd) = e.acks :=
    (List.zip_of_prod rfl rfl).symm
  have rest : e.pendingQ.zip (e.readyQ.map e.content) = [] := by
    rcases sound.disjoint with none | none
    · rw [none, List.zip_nil_left]
    · rw [none, List.map_nil, List.zip_nil_right]
  rw [← kept.asked, ← kept.offered, sound.produced, List.zip_append (by simp), pairs, rest,
    List.append_nil]

end Kept

/-- In every run every content fits in the buffer it is copied into, exactly if the `k`-th content
that is kept is no longer than the buffer of the `k`-th request that is kept. -/
theorem delivered_data_fits_iff (readyCap pendingCap : Nat) (refuse : Nat → Bool)
    (e : Endpoint) (kept : History)
    (reached : Reachable (observed act History.keep) (fun state action => state.1.Sized action)
      (init readyCap pendingCap refuse, ⟨[], []⟩) (e, kept)) :
    e.Fits ↔ ∀ (k : Nat) (request : IpcMessage) (content : Reply),
      kept.asked[k]? = some request → kept.offered[k]? = some content →
        content.data.length ≤ request.wLength.toNat := by
  have invariant : e.Sound ∧ Kept e kept := by
    refine reached.invariant (fun state => state.1.Sound ∧ Kept state.1 state.2) ?_ ?_
    · exact ⟨init_sound readyCap pendingCap refuse, rfl, rfl⟩
    · intro before after action holds sized observing
      obtain ⟨t, run, rfl⟩ := observed_ok.mp observing
      exact ⟨holds.1.act sized.replies run, holds.2.act holds.1 run⟩
  rw [Fits, invariant.2.acks_eq_zip invariant.1]
  constructor
  · intro fits k request content asked offered
    have pair : (kept.asked.zip kept.offered)[k]? = some (request, content) :=
      List.getElem?_zip_eq_some.mpr ⟨asked, offered⟩
    exact fits _ (List.mem_of_getElem? pair)
  · intro fits ack member
    obtain ⟨k, pair⟩ := List.mem_iff_getElem?.mp member
    have both := List.getElem?_zip_eq_some.mp pair
    exact fits k ack.1 ack.2 both.1 both.2

instance decidableSized (e : Endpoint) : (action : Action) → Decidable (e.Sized action)
  | .request _ => inferInstanceAs (Decidable (_ ≤ _))
  | .inject _ => .isTrue trivial
  | .complete _ _ => inferInstanceAs (Decidable (_ ∧ _ ∧ _))

/-- A two-byte content is copied into a one-byte buffer: an injected message, and the data of a
hand-down message that was configured for the request before. -/
theorem delivered_data_overruns :
    (∃ e kept, Reachable (observed act History.keep) (fun state action => state.1.Sized action)
        (init 8 8 fun _ => false, ⟨[], []⟩) (e, kept) ∧
      e.acks = [(⟨0, 0, 1⟩, ⟨2, [5, 6]⟩)] ∧ ¬ e.Fits) ∧
    ∃ e kept, Reachable (observed act History.keep) (fun state action => state.1.Sized action)
        (init 8 8 fun _ => false, ⟨[], []⟩) (e, kept) ∧
      e.acks = [(⟨0, 0, 64⟩, ⟨1, [5]⟩), (⟨1, 0, 1⟩, ⟨2, [0, 0]⟩)] ∧ ¬ e.Fits := by
  constructor
  · obtain ⟨⟨e, kept⟩, reached, acked⟩ : ∃ state, Reachable (observed act History.keep)
        (fun state action => state.1.Sized action) (init 8 8 fun _ => false, ⟨[], []⟩) state ∧
        decide (state.1.acks = [(⟨0, 0, 1⟩, ⟨2, [5, 6]⟩)]) = true :=
      exists_of_execute [.request ⟨0, 0, 1⟩, .inject ⟨0, [5, 6]⟩] (by decide +kernel)
    have acks := of_decide_eq_true acked
    exact ⟨e, kept, reached, acks, by rw [Fits, acks]; decide⟩
  · obtain ⟨⟨e, kept⟩, reached, acked⟩ : ∃ state, Reachable (observed act History.keep)
        (fun state action => state.1.Sized action) (init 8 8 fun _ => false, ⟨[], []⟩) state ∧
        decide (state.1.acks = [(⟨0, 0, 64⟩, ⟨1, [5]⟩), (⟨1, 0, 1⟩, ⟨2, [0, 0]⟩)]) = true :=
      exists_of_execute [.request ⟨0, 0, 64⟩, .inject ⟨0, [5]⟩, .request ⟨1, 0, 1⟩,
        .complete 2 (List.replicate handDownMsgDataSize 0)] (by decide +kernel)
    have acks := of_decide_eq_true acked
    exact ⟨e, kept, reached, acks, by rw [Fits, acks]; decide⟩

/-- An injected message takes the buffer of the first request, and the data of the hand-down message
fits in that of the second. -/
theorem delivered_data_fits_iff_overtaken :
    ∃ e kept, Reachable (observed act History.keep) (fun state action => state.1.Sized action)
        (init 8 8 fun _ => false, ⟨[], []⟩) (e, kept) ∧ e.acks.length = 2 ∧ e.Fits := by
  obtain ⟨⟨e, kept⟩, reached, check⟩ : ∃ state, Reachable (observed act History.keep)
      (fun state action => state.1.Sized action) (init 8 8 fun _ => false, ⟨[], []⟩) state ∧
      decide (state.1.acks.length = 2 ∧ state.2.asked = [⟨0, 0, 64⟩, ⟨1, 0, 2⟩] ∧
        state.2.offered = [⟨1, [5]⟩, ⟨2, [0, 0]⟩]) = true :=
    exists_of_execute [.request ⟨0, 0, 64⟩, .inject ⟨0, [5]⟩, .request ⟨1, 0, 2⟩,
      .complete 2 (List.replicate handDownMsgDataSize 0)] (by decide +kernel)
  obtain ⟨acked, asked, offered⟩ := of_decide_eq_true check
  refine ⟨e, kept, reached, acked,
    (delivered_data_fits_iff 8 8 (fun _ => false) e kept reached).mpr ?_⟩
  rw [asked, offered]
  rintro (_ | _ | k) request content one two
  · cases one
    cases two
    decide
  · cases one
    cases two
    decide
  · cases one

end Endpoint

end Fakemote
