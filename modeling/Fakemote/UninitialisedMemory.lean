import Fakemote.InjectedPackets
import Fakemote.Library.Relational

/-! Two modules that run on different uninitialised memory: fresh heap blocks and uninitialised
locals hold other bytes. Their states are alike when nothing but bytes of packets and of the IR
camera's registers differs, and these only where uninitialised memory can reach them. -/

namespace Fakemote

open Bytes Program

/-- Where uninitialised memory may show up: behind names, in the padding of status reports, in the
dots of the camera. Unless `touches`, no controller has reported a touch left of its pad. -/
structure Leaks where
  names : Bool
  padding : Bool
  camera : Bool
  touches : Bool

/-- Behind the name of a fake Wiimote nothing of the event is written. -/
def LooseEvent (leaks : Leaks) (event : List UInt8) (index : Nat) : Prop :=
  leaks.names = true ∧ event.head? = some hciEventRemoteNameReqCompl ∧ 24 ≤ index

def CameraRegister (address : Nat) : Prop :=
  irRegsCameraData ≤ address ∧ address < irRegsCameraData + cameraDataBytes

instance (address : Nat) : Decidable (CameraRegister address) :=
  inferInstanceAs (Decidable (_ ∧ _))

/-- The bytes of the body of an input report: the padding of a status report, and those that come
from the camera: in a read reply by the address that it gives, in a data report by its format. -/
def LooseBody (leaks : Leaks) (id : UInt8) (body : List UInt8) (index : Nat) : Prop :=
  leaks.padding = true ∧ id = inputReportIdStatus ∧ (index = 3 ∨ index = 4) ∨
    leaks.camera = true ∧
      (id = inputReportIdReadDataReply ∧ 5 ≤ index ∧
          CameraRegister ((word16 (body.getD 3 0) (body.getD 4 0)).toNat + (index - 5)) ∨
        inputReportIrOffset id ≤ index ∧ index < inputReportIrOffset id + inputReportIrSize id)

def LooseAcl (leaks : Leaks) (packet : List UInt8) (index : Nat) : Prop :=
  packet[8]? = some ((hidTypeData <<< (4 : UInt8)) ||| hidParamInput) ∧ 10 ≤ index ∧
    LooseBody leaks (packet.getD 9 0) (packet.drop 10) (index - 10)

/-- The same bytes, but where the first list says that they may differ. -/
structure LikeBytes (loose : List UInt8 → Nat → Prop) (data other : List UInt8) : Prop where
  length : other.length = data.length
  same : ∀ index, ¬ loose data index → other[index]? = data[index]?

theorem LikeBytes.refl (loose : List UInt8 → Nat → Prop) (data : List UInt8) :
    LikeBytes loose data data :=
  ⟨rfl, fun _ _ => rfl⟩

inductive LikeMsg (loose : List UInt8 → Nat → Prop) : ReadyMsg → ReadyMsg → Prop
  | injected {block : Nat} {data other : List UInt8} : LikeBytes loose data other →
      LikeMsg loose (.injected ⟨block, data⟩) (.injected ⟨block, other⟩)
  | handDown : LikeMsg loose .handDown .handDown

structure LikeReply (loose : List UInt8 → Nat → Prop) (reply other : Reply) : Prop where
  retval : other.retval = reply.retval
  data : LikeBytes loose reply.data other.data

inductive LikeDropped (loose : List UInt8 → Nat → Prop) : Dropped → Dropped → Prop
  | request (msg : IpcMessage) : LikeDropped loose (.request msg) (.request msg)
  | message {msg other : ReadyMsg} : LikeMsg loose msg other →
      LikeDropped loose (.message msg) (.message other)

structure LikeEndpoint (loose : List UInt8 → Nat → Prop) (e f : Endpoint) : Prop where
  readyQ : List.Forall₂ (LikeMsg loose) e.readyQ f.readyQ
  readyCap : f.readyCap = e.readyCap
  pendingQ : f.pendingQ = e.pendingQ
  pendingCap : f.pendingCap = e.pendingCap
  handDown : f.handDown = e.handDown
  handDownPending : f.handDownPending = e.handDownPending
  refuse : f.refuse = e.refuse
  sends : f.sends = e.sends
  requests : f.requests = e.requests
  produced : List.Forall₂ (LikeReply loose) e.produced f.produced
  acks : List.Forall₂ (fun ack other => other.1 = ack.1 ∧ LikeReply loose ack.2 other.2) e.acks
    f.acks
  freed : f.freed = e.freed
  dropped : List.Forall₂ (LikeDropped loose) e.dropped f.dropped
  outstanding : f.outstanding = e.outstanding

structure LikeHeap (heap other : Heap) : Prop where
  outcome : ∀ n, (other.outcome n).isSome = (heap.outcome n).isSome
  calls : other.calls = heap.calls
  blocks : other.blocks = heap.blocks

theorem forall_snoc {α β : Type} {R : α → β → Prop} {as : List α} {bs : List β} {a : α} {b : β}
    (front : List.Forall₂ R as bs) (last : R a b) : List.Forall₂ R (as ++ [a]) (bs ++ [b]) :=
  List.rel_append front (.cons last .nil)

namespace LikeEndpoint

variable {loose : List UInt8 → Nat → Prop} {e f : Endpoint} {msg other : ReadyMsg}

theorem content (like : LikeEndpoint loose e f) (messages : LikeMsg loose msg other) :
    LikeReply loose (e.content msg) (f.content other) := by
  cases messages with
  | injected bytes => exact ⟨congrArg Nat.cast bytes.length, bytes⟩
  | handDown =>
      unfold Endpoint.content
      rw [like.handDown]
      exact ⟨rfl, .refl _ _⟩

theorem sendReady (like : LikeEndpoint loose e f) (messages : LikeMsg loose msg other) :
    LikeEndpoint loose (e.sendReady msg).1 (f.sendReady other).1 ∧
      (f.sendReady other).2 = (e.sendReady msg).2 := by
  have content := like.content messages
  unfold Endpoint.sendReady
  rw [← like.readyQ.length_eq, like.readyCap, like.refuse, like.sends]
  split
  · exact ⟨{ like with
      readyQ := forall_snoc like.readyQ messages
      readyCap := rfl
      refuse := rfl
      sends := rfl
      produced := forall_snoc like.produced content }, rfl⟩
  · exact ⟨{ like with
      readyCap := rfl
      refuse := rfl
      sends := rfl
      dropped := forall_snoc like.dropped (.message messages) }, rfl⟩

theorem sendPending (like : LikeEndpoint loose e f) (request : IpcMessage) :
    LikeEndpoint loose (e.sendPending request).1 (f.sendPending request).1 ∧
      (f.sendPending request).2 = (e.sendPending request).2 := by
  unfold Endpoint.sendPending
  rw [like.pendingQ, like.pendingCap, like.refuse, like.sends]
  split
  · exact ⟨{ like with
      pendingQ := rfl
      pendingCap := rfl
      refuse := rfl
      sends := rfl }, rfl⟩
  · exact ⟨{ like with
      pendingQ := rfl
      pendingCap := rfl
      refuse := rfl
      sends := rfl
      dropped := forall_snoc like.dropped (.request request) }, rfl⟩

theorem copyAndAckIpcmessage (like : LikeEndpoint loose e f) (request : IpcMessage)
    (messages : LikeMsg loose msg other) :
    LikeEndpoint loose (e.copyAndAckIpcmessage request msg).1
        (f.copyAndAckIpcmessage request other).1 ∧
      (f.copyAndAckIpcmessage request other).2 = (e.copyAndAckIpcmessage request msg).2 := by
  have content := like.content messages
  cases messages with
  | injected bytes =>
      exact ⟨{ like with
        freed := congrArg (· ++ _) like.freed
        acks := forall_snoc like.acks ⟨rfl, content⟩ }, rfl⟩
  | handDown => exact ⟨{ like with acks := forall_snoc like.acks ⟨rfl, content⟩ }, rfl⟩

theorem handleBulkIntrReadyMessage (like : LikeEndpoint loose e f)
    (messages : LikeMsg loose msg other) :
    LikeEndpoint loose (e.handleBulkIntrReadyMessage msg).1 (f.handleBulkIntrReadyMessage other).1 ∧
      (f.handleBulkIntrReadyMessage other).2 = (e.handleBulkIntrReadyMessage msg).2 := by
  have content := like.content messages
  unfold Endpoint.handleBulkIntrReadyMessage
  rw [like.pendingQ]
  split
  case h_1 request rest _ =>
      have taken : LikeEndpoint loose
          { e with pendingQ := rest, produced := e.produced ++ [e.content msg] }
          { f with pendingQ := rest, produced := f.produced ++ [f.content other] } :=
        { like with
          pendingQ := rfl
          produced := forall_snoc like.produced content }
      exact taken.copyAndAckIpcmessage request messages
  case h_2 => exact like.sendReady messages

theorem configureHandDownMsg (like : LikeEndpoint loose e f) (fd : Int) (wLength : UInt16) :
    Alike (LikeEndpoint loose) (e.configureHandDownMsg fd wLength)
      (f.configureHandDownMsg fd wLength) := by
  unfold Endpoint.configureHandDownMsg
  split
  · exact .ok { like with handDown := by rw [like.handDown] }
  · exact .error _

theorem handleBulkIntrPendingMessage (like : LikeEndpoint loose e f) (request : IpcMessage)
    (size : UInt16) :
    Alike (fun x y => LikeEndpoint loose x.1 y.1 ∧ y.2 = x.2)
      (e.handleBulkIntrPendingMessage request size)
      (f.handleBulkIntrPendingMessage request size) := by
  have requests : LikeEndpoint loose { e with requests := e.requests ++ [request] }
      { f with requests := f.requests ++ [request] } :=
    { like with requests := congrArg (· ++ _) like.requests }
  have ready := like.readyQ
  have sent := requests.sendPending request
  unfold Endpoint.handleBulkIntrPendingMessage
  dsimp only
  rcases first : e.readyQ with _ | ⟨msg, rest⟩
  · rw [first] at ready sent
    have second := List.forall₂_nil_left_iff.mp ready
    rw [second] at sent ⊢
    obtain ⟨sent, same⟩ := sent
    dsimp only
    rw [same, sent.handDownPending]
    split
    case isTrue =>
        have configured := sent.configureHandDownMsg request.fd size
        generalize Endpoint.configureHandDownMsg _ request.fd size = x at configured ⊢
        generalize Endpoint.configureHandDownMsg _ request.fd size = y at configured ⊢
        cases configured with
        | error => exact .error _
        | ok configured => exact .ok ⟨{ configured with handDownPending := rfl }, rfl⟩
    case isFalse => exact .ok ⟨sent, rfl⟩
  · rw [first] at ready
    obtain ⟨other, others, messages, after, second⟩ := List.forall₂_cons_left_iff.mp ready
    rw [second]
    have taken : LikeEndpoint loose
        { e with requests := e.requests ++ [request], readyQ := rest }
        { f with requests := f.requests ++ [request], readyQ := others } :=
      { requests with readyQ := after }
    obtain ⟨copied, same⟩ := taken.copyAndAckIpcmessage request messages
    exact .ok ⟨copied, by rw [same]⟩

theorem receiveMessage (like : LikeEndpoint loose e f) (request : IpcMessage) :
    Alike (fun x y => LikeEndpoint loose x.1 y.1 ∧ y.2 = x.2) (e.receiveMessage request)
      (f.receiveMessage request) := by
  have pending := like.handleBulkIntrPendingMessage request request.wLength
  unfold Endpoint.receiveMessage
  generalize e.handleBulkIntrPendingMessage request request.wLength = x at pending ⊢
  generalize f.handleBulkIntrPendingMessage request request.wLength = y at pending ⊢
  cases pending with
  | error => exact .error _
  | @ok first second related =>
      obtain ⟨after, outcome⟩ := first
      obtain ⟨later, other⟩ := second
      obtain ⟨sent, rfl⟩ := related
      dsimp only at sent ⊢
      split
      · split
        · exact .ok ⟨sent, rfl⟩
        · exact .ok ⟨{ sent with outstanding := congrArg (· + 1) sent.outstanding }, rfl⟩
      · exact .ok ⟨sent, rfl⟩

theorem resourceReply (like : LikeEndpoint loose e f) (retval : Int) (buffer : List UInt8) :
    LikeEndpoint loose (e.resourceReply retval buffer).1 (f.resourceReply retval buffer).1 := by
  have replied : LikeEndpoint loose
      { e with
        handDownPending := false
        outstanding := e.outstanding - 1
        handDown := { e.handDown with data := buffer, result := retval } }
      { f with
        handDownPending := false
        outstanding := f.outstanding - 1
        handDown := { f.handDown with data := buffer, result := retval } } :=
    { like with
      handDownPending := rfl
      outstanding := congrArg (· - 1) like.outstanding
      handDown := by rw [like.handDown] }
  exact (replied.handleBulkIntrReadyMessage .handDown).1

end LikeEndpoint

/-- Packets of one size; what the second list of bytes leaves of a block does not show up where the
bytes have to be the same. -/
structure LikePacket (loose : List UInt8 → Nat → Prop) (packet other : Packet) : Prop where
  size : other.size = packet.size
  bytes : Alike (fun data bytes => bytes.length = data.length ∧ ∀ rest junk : List UInt8,
    data.length + rest.length = packet.size.toNat → junk.length = rest.length →
      LikeBytes loose (data ++ rest) (bytes ++ junk)) packet.bytes other.bytes

structure LikeInjection (loose : List UInt8 → Nat → Prop) (done other : Injection) : Prop where
  heap : LikeHeap done.heap other.heap
  endpoint : LikeEndpoint loose done.endpoint other.endpoint
  data : LikeBytes loose done.data other.data
  ret : other.ret = done.ret

theorem inject_alike {loose : List UInt8 → Nat → Prop} {heap heap' : Heap} {e f : Endpoint}
    {packet other : Packet} (heaps : LikeHeap heap heap') (like : LikeEndpoint loose e f)
    (packets : LikePacket loose packet other) :
    Alike (LikeInjection loose) (inject heap e packet) (inject heap' f other) := by
  have outcome := heaps.outcome heap.calls
  unfold inject Heap.injmessageAlloc
  rw [heaps.calls]
  rcases first : heap.outcome heap.calls with _ | junk
  · rw [first] at outcome
    rcases second : heap'.outcome heap.calls with _ | junk'
    · exact .ok ⟨{ heaps with calls := rfl }, like, .refl _ _, rfl⟩
    · rw [second] at outcome
      cases outcome
  · rw [first] at outcome
    rcases second : heap'.outcome heap.calls with _ | junk'
    · rw [second] at outcome
      cases outcome
    · dsimp only
      refine packets.bytes.bind fun data bytes ⟨length, shown⟩ => ?_
      unfold fillMessage
      dsimp only
      rw [packets.size, length]
      simp only [List.length_map, List.length_range]
      split
      case isTrue fits =>
          have messages : LikeMsg loose
              (.injected ⟨heap.calls, data ++
                ((List.range packet.size.toNat).map junk).drop data.length⟩)
              (.injected ⟨heap.calls, bytes ++
                ((List.range packet.size.toNat).map junk').drop data.length⟩) := by
            refine .injected (shown _ _ ?_ ?_)
            · simp only [List.length_drop, List.length_map, List.length_range]
              omega
            · simp only [List.length_drop, List.length_map, List.length_range]
          obtain ⟨delivered, ret⟩ := like.handleBulkIntrReadyMessage messages
          have blocks : LikeHeap
              { heap with calls := heap.calls + 1, blocks := heap.blocks ++ [heap.calls] }
              { heap' with calls := heap.calls + 1, blocks := heap'.blocks ++ [heap.calls] } :=
            ⟨heaps.outcome, rfl, congrArg (· ++ _) heaps.blocks⟩
          cases messages with
          | injected shown => exact .ok ⟨blocks, delivered, shown, ret⟩
      case isFalse => exact .error _

end Fakemote
