import Fakemote.Runs
import Mathlib.Data.List.Nodup

/-! Who owns the blocks of the injection heap and the host's buffer requests. Nothing is freed
twice; a block or a request whose send fails is left without an owner. -/

namespace Fakemote

open Program Transition Function

def blocksOf (queue : List ReadyMsg) : List Nat :=
  queue.filterMap fun
    | .injected msg => some msg.block
    | .handDown => none

namespace Endpoint

def droppedBlocks (e : Endpoint) : List Nat :=
  e.dropped.filterMap fun
    | .message (.injected msg) => some msg.block
    | _ => none

def blocks (e : Endpoint) : List Nat := e.freed ++ (blocksOf e.readyQ ++ e.droppedBlocks)

theorem blocks_count (e : Endpoint) (b : Nat) : e.blocks.count b =
    e.freed.count b + (blocksOf e.readyQ).count b + e.droppedBlocks.count b := by
  simp only [blocks, List.count_append]
  omega

theorem ack_blocks (e : Endpoint) (pending : IpcMessage) (ready : ReadyMsg) (b : Nat) :
    (copyAndAckIpcmessage e pending ready).1.blocks.count b =
      (blocksOf [ready]).count b + e.blocks.count b := by
  cases ready with
  | injected msg =>
      simp only [blocks_count, copyAndAckIpcmessage, droppedBlocks, List.count_append]
      simp only [blocksOf, List.filterMap_cons, List.filterMap_nil]
      omega
  | handDown =>
      have none : blocksOf [.handDown] = [] := rfl
      rw [none, List.count_nil, Nat.zero_add]
      rfl

theorem ready_blocks (e : Endpoint) (msg : ReadyMsg) (b : Nat) :
    (e.handleBulkIntrReadyMessage msg).1.blocks.count b =
      (blocksOf [msg]).count b + e.blocks.count b := by
  rcases handleBulkIntrReadyMessage_cases e msg with ⟨pending, rest, -, result⟩ |
    ⟨-, result⟩ | ⟨-, result⟩
  · rw [result]
    exact ack_blocks _ _ _ _
  · rw [result]
    simp only [blocks_count, droppedBlocks, blocksOf, List.filterMap_append, List.count_append]
    omega
  · rw [result]
    have lost : droppedBlocks { e with
        sends := e.sends + 1
        dropped := e.dropped ++ [.message msg] } = e.droppedBlocks ++ blocksOf [msg] := by
      cases msg <;> simp [droppedBlocks, blocksOf]
    simp only [blocks_count, lost, List.count_append]
    omega

theorem receiveMessage_blocks {e t : Endpoint} {msg : IpcMessage} {out : Option ToOh1}
    (run : e.receiveMessage msg = .ok (t, out)) (b : Nat) :
    t.blocks.count b = e.blocks.count b := by
  rcases receiveMessage_cases run with ⟨ready, rest, queue, -, rfl⟩ | ⟨queue, -, -, rfl⟩ |
    ⟨queue, -, -, rfl⟩ | ⟨queue, -, rfl⟩
  · rw [ack_blocks]
    have split : blocksOf e.readyQ = blocksOf [ready] ++ blocksOf rest := by
      rw [queue, blocksOf, ← List.singleton_append, List.filterMap_append]
      rfl
    simp only [blocks_count, split, List.count_append, droppedBlocks]
    omega
  · simp only [blocks_count, droppedBlocks]
  · simp only [blocks_count, droppedBlocks]
  · simp [blocks_count, droppedBlocks]

end Endpoint

def Traffic.handed (f : Traffic) : List Nat :=
  (f.endpoint .intr).blocks ++ (f.endpoint .bulkIn).blocks

structure Conserved (f : Traffic) : Prop where
  handed : ∀ b, f.heap.blocks.count b = f.handed.count b
  fresh : ∀ b ∈ f.heap.blocks, b < f.heap.calls
  once : f.heap.blocks.Nodup

theorem handed_update {f : Traffic} {ep : EndpointId} {e : Endpoint} {heap : Heap} {b added : Nat}
    (more : e.blocks.count b = added + (f.endpoint ep).blocks.count b) :
    (Traffic.handed ⟨heap, update f.endpoint ep e⟩).count b = added + f.handed.count b := by
  cases ep with
  | intr =>
      simp only [Traffic.handed, List.count_append, update_self, ne_eq, reduceCtorEq,
        not_false_eq_true, update_of_ne, more]
      omega
  | bulkIn =>
      simp only [Traffic.handed, List.count_append, update_self, ne_eq, reduceCtorEq,
        not_false_eq_true, update_of_ne, more]
      omega

theorem handed_same {f : Traffic} {ep : EndpointId} {e : Endpoint} {heap : Heap} {b : Nat}
    (same : e.blocks.count b = (f.endpoint ep).blocks.count b) :
    (Traffic.handed ⟨heap, update f.endpoint ep e⟩).count b = f.handed.count b := by
  have moved : e.blocks.count b = 0 + (f.endpoint ep).blocks.count b := by rw [same, Nat.zero_add]
  rw [handed_update moved, Nat.zero_add]

theorem Conserved.flow {f g : Traffic} (conserved : Conserved f) (flow : Flow f g) :
    Conserved g := by
  cases flow with
  | inject ep run =>
      rcases inject_cases run with ⟨-, rfl⟩ | ⟨junk, bytes, rest, -, -, -, rfl⟩
      · constructor
        · intro b
          rw [handed_same (by simp)]
          exact conserved.handed b
        · intro b member
          exact Nat.lt_succ_of_lt (conserved.fresh b member)
        · exact conserved.once
      · constructor
        · intro b
          have handed : blocksOf [.injected ⟨f.heap.calls, bytes ++ rest⟩] = [f.heap.calls] := rfl
          rw [handed_update (Endpoint.ready_blocks _ _ b), handed, List.count_append,
            conserved.handed b, Nat.add_comm]
        · intro b member
          rcases List.mem_append.mp member with earlier | last
          · exact Nat.lt_succ_of_lt (conserved.fresh b earlier)
          · rw [List.mem_singleton.mp last]
            exact Nat.lt_succ_self _
        · refine List.nodup_append.mpr ⟨conserved.once, by simp, ?_⟩
          intro b member c last same
          rw [List.mem_singleton.mp last] at same
          have below := conserved.fresh b member
          omega
  | request ep run =>
      refine ⟨fun b => ?_, conserved.fresh, conserved.once⟩
      rw [handed_same (by rw [Endpoint.receiveMessage_blocks run])]
      exact conserved.handed b
  | reply ep lent =>
      refine ⟨fun b => ?_, conserved.fresh, conserved.once⟩
      rw [handed_same]
      · exact conserved.handed b
      · unfold Endpoint.resourceReply
        rw [Endpoint.ready_blocks]
        exact Nat.zero_add _

theorem Run.conserved {env : Environment} {condition : World → Input → Prop} {s : World}
    (reached : Run env condition s) : Conserved s.traffic := by
  refine reached.traffic_invariant Conserved ⟨fun b => rfl, ?_, List.nodup_nil⟩
    fun f g holds flow => holds.flow flow
  intro b member
  cases member

def freedBlocks (s : World) : List Nat := s.intr.freed ++ s.periphery.bulkIn.freed

def readyBlocks (s : World) : List Nat :=
  blocksOf s.intr.readyQ ++ blocksOf s.periphery.bulkIn.readyQ

structure Owned (s : World) : Prop where
  blocks : ∀ b ∈ s.periphery.heap.blocks, b ∉ freedBlocks s → (readyBlocks s).count b = 1
  freed : (freedBlocks s).Nodup
  requests : ∀ ep, (s.endpoint ep).requests.Perm
    ((s.endpoint ep).acks.map Prod.fst ++ (s.endpoint ep).pendingQ)

/-- No send of a heap message and no send of a request has failed on this endpoint. -/
def SendsSucceeded (e : Endpoint) : Prop := ∀ msg ∈ e.dropped, msg = .message .handDown

theorem sendsSucceeded_iff (e : Endpoint) :
    SendsSucceeded e ↔ e.droppedBlocks = [] ∧ e.droppedRequests = [] := by
  simp only [SendsSucceeded, Endpoint.droppedBlocks, Endpoint.droppedRequests,
    List.filterMap_eq_nil_iff]
  constructor
  · intro none
    constructor
    · intro msg member
      rw [none msg member]
    · intro msg member
      rw [none msg member]
  · rintro ⟨blocks, requests⟩ msg member
    have noBlock := blocks msg member
    have noRequest := requests msg member
    cases msg with
    | request lost => cases noRequest
    | message lost =>
        cases lost with
        | injected lost => cases noBlock
        | handDown => rfl

theorem Conserved.count {s : World} (conserved : Conserved s.traffic) (b : Nat) :
    s.periphery.heap.blocks.count b = (freedBlocks s).count b + (readyBlocks s).count b +
      (s.intr.droppedBlocks.count b + s.periphery.bulkIn.droppedBlocks.count b) := by
  have handed := conserved.handed b
  rw [Traffic.handed, List.count_append, Endpoint.blocks_count, Endpoint.blocks_count] at handed
  change s.periphery.heap.blocks.count b = _ at handed
  simp only [freedBlocks, readyBlocks, List.count_append, handed, World.traffic, World.endpoint]
  omega

theorem Conserved.count_le_one {s : World} (conserved : Conserved s.traffic) (b : Nat) :
    s.periphery.heap.blocks.count b ≤ 1 :=
  List.nodup_iff_count_le_one.mp conserved.once b

theorem Owned.of_sendsSucceeded {s : World} (conserved : Conserved s.traffic)
    (sound : ∀ ep, (s.endpoint ep).Sound) (succeeded : ∀ ep, SendsSucceeded (s.endpoint ep)) :
    Owned s := by
  have none (ep : EndpointId) := (sendsSucceeded_iff _).mp (succeeded ep)
  have intr : s.intr.droppedBlocks = [] := (none .intr).1
  have bulkIn : s.periphery.bulkIn.droppedBlocks = [] := (none .bulkIn).1
  constructor
  · intro b member unfreed
    have placed := conserved.count b
    have allocated : s.periphery.heap.blocks.count b = 1 :=
      List.count_eq_one_of_mem conserved.once member
    rw [allocated, List.count_eq_zero.mpr unfreed, intr, bulkIn, List.count_nil] at placed
    omega
  · rw [List.nodup_iff_count_le_one]
    intro b
    have placed := conserved.count b
    have single := conserved.count_le_one b
    omega
  · intro ep
    have taken := (sound ep).taken
    rwa [(none ep).2, List.append_nil] at taken

theorem Owned.sendsSucceeded {s : World} (owned : Owned s) (conserved : Conserved s.traffic)
    (sound : ∀ ep, (s.endpoint ep).Sound) (ep : EndpointId) :
    SendsSucceeded (s.endpoint ep) := by
  refine (sendsSucceeded_iff _).mpr ⟨?_, ?_⟩
  · refine List.eq_nil_iff_forall_not_mem.mpr fun b lost => ?_
    have positive := List.count_pos_iff.mpr lost
    have placed := conserved.count b
    have single := conserved.count_le_one b
    have dropped : 0 < s.intr.droppedBlocks.count b + s.periphery.bulkIn.droppedBlocks.count b := by
      cases ep with
      | intr => exact Nat.add_pos_left positive _
      | bulkIn => exact Nat.add_pos_right _ positive
    have allocated : b ∈ s.periphery.heap.blocks := List.count_pos_iff.mp (by omega)
    have unfreed : b ∉ freedBlocks s := List.count_eq_zero.mp (by omega)
    have waiting := owned.blocks b allocated unfreed
    omega
  · have taken := (sound ep).taken.length_eq
    have parked := (owned.requests ep).length_eq
    rw [List.length_append] at taken
    exact List.eq_nil_of_length_eq_zero (by omega)

/-- In every run, each block that is not freed waits in one ReadyQ and each request is parked or
acked if and only if no send of a block or a request has failed. -/
theorem owned_iff_sends_succeeded (env : Environment) (s : World) (reached : Run env anyInput s) :
    Owned s ↔ ∀ ep, SendsSucceeded (s.endpoint ep) :=
  ⟨fun owned => owned.sendsSucceeded reached.conserved reached.sound,
    .of_sendsSucceeded reached.conserved reached.sound⟩

theorem owned_iff_sends_succeeded_one_request :
    ∃ s, Run .lenient anyInput s ∧ s.intr.acks.length = 1 ∧
      (Owned s ↔ ∀ ep, SendsSucceeded (s.endpoint ep)) := by
  obtain ⟨s, reached, acked⟩ : ∃ s, Run .lenient anyInput s ∧
      decide (s.intr.acks.length = 1) = true :=
    exists_of_execute [readAllStoredLinkKeys, .bufferRequest .intr ⟨0, 0, 64⟩]
      (by decide +kernel)
  exact ⟨s, reached, of_decide_eq_true acked, owned_iff_sends_succeeded .lenient s reached⟩

/-- The ReadyQ holds eight messages; the ninth is neither freed nor queued. -/
theorem ninth_message_leaks :
    ∃ s, Run .lenient anyInput s ∧ 8 ∈ s.periphery.heap.blocks ∧ 8 ∉ freedBlocks s ∧
      (readyBlocks s).count 8 = 0 := by
  obtain ⟨s, reached, check⟩ : ∃ s, Run .lenient anyInput s ∧
      decide (8 ∈ s.periphery.heap.blocks ∧ 8 ∉ freedBlocks s ∧
        (readyBlocks s).count 8 = 0) = true :=
    exists_of_execute (List.replicate 9 readAllStoredLinkKeys) (by decide +kernel)
  exact ⟨s, reached, of_decide_eq_true check⟩

end Fakemote
