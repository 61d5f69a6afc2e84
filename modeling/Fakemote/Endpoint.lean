import Fakemote.Base

/-! The PendingQ and ReadyQ of one endpoint (HCI events or ACL-in) of `main.c`, with its static
hand-down message. IOS queues are bounded FIFOs: a receive fails when the queue is empty, a send
fails when it is full and also when IOS refuses it. -/

namespace Fakemote

/-- A host request for data; `wLength` is the size of its buffer. -/
structure IpcMessage where
  addr : Nat
  fd : Int
  wLength : UInt16
  deriving DecidableEq, Repr

/-- What the host finds when its request is acked: the result and the bytes copied. -/
structure Reply where
  retval : Int
  data : List UInt8
  deriving DecidableEq, Repr

structure InjMessage where
  block : Nat
  data : List UInt8
  deriving DecidableEq, Repr

inductive ReadyMsg
  | injected (msg : InjMessage)
  | handDown
  deriving DecidableEq, Repr

inductive ToOh1
  | host (msg : IpcMessage)
  | handDown
  deriving DecidableEq, Repr

/-- Messages that a failed send leaves without an owner. -/
inductive Dropped
  | request (msg : IpcMessage)
  | message (msg : ReadyMsg)
  deriving DecidableEq, Repr

structure HandDownMsg where
  fd : Int
  wLength : UInt16
  data : List UInt8
  result : Int
  deriving DecidableEq, Repr

def handDownMsgDataSize : Nat := 4096

/-- The last six fields are history: the requests taken from the host, the contents delivered to
a request or queued, the requests acked with what the host received, the heap blocks freed, the
messages whose send failed, and the number of hand-down messages that OH1 has not replied to.
`refuse n` is IOS's answer to the `n`-th send. -/
structure Endpoint where
  readyQ : List ReadyMsg
  readyCap : Nat
  pendingQ : List IpcMessage
  pendingCap : Nat
  handDown : HandDownMsg
  handDownPending : Bool
  refuse : Nat → Bool
  sends : Nat
  requests : List IpcMessage
  produced : List Reply
  acks : List (IpcMessage × Reply)
  freed : List Nat
  dropped : List Dropped
  outstanding : Nat

def Endpoint.init (readyCap pendingCap : Nat) (refuse : Nat → Bool) : Endpoint where
  readyQ := []
  readyCap := readyCap
  pendingQ := []
  pendingCap := pendingCap
  handDown := ⟨0, 0, List.replicate handDownMsgDataSize 0, 0⟩
  handDownPending := false
  refuse := refuse
  sends := 0
  requests := []
  produced := []
  acks := []
  freed := []
  dropped := []
  outstanding := 0

namespace Endpoint

/-- The content of the hand-down buffer. A result that is not positive is an error and carries
no data; the length is a `u16`. -/
def handDownContent (retval : Int) (buffer : List UInt8) : Reply :=
  ⟨retval, if 0 < retval then buffer.take (retval.toNat % 65536) else []⟩

def content (e : Endpoint) : ReadyMsg → Reply
  | .injected msg => ⟨msg.data.length, msg.data⟩
  | .handDown => handDownContent e.handDown.result e.handDown.data

def sendReady (e : Endpoint) (msg : ReadyMsg) : Endpoint × IosResult :=
  if e.readyQ.length < e.readyCap ∧ e.refuse e.sends = false then
    ({ e with
        readyQ := e.readyQ ++ [msg]
        sends := e.sends + 1
        produced := e.produced ++ [e.content msg] }, .iosOk)
  else
    ({ e with sends := e.sends + 1, dropped := e.dropped ++ [.message msg] }, .iosEqueueFull)

def sendPending (e : Endpoint) (msg : IpcMessage) : Endpoint × IosResult :=
  if e.pendingQ.length < e.pendingCap ∧ e.refuse e.sends = false then
    ({ e with pendingQ := e.pendingQ ++ [msg], sends := e.sends + 1 }, .iosOk)
  else
    ({ e with sends := e.sends + 1, dropped := e.dropped ++ [.request msg] }, .iosEqueueFull)

def copyAndAckIpcmessage (e : Endpoint) (pendMsg : IpcMessage) (readyMsg : ReadyMsg) :
    Endpoint × IosResult :=
  match readyMsg with
  | .injected msg =>
      ({ e with
          freed := e.freed ++ [msg.block]
          acks := e.acks ++ [(pendMsg, e.content readyMsg)] }, .iosOk)
  | .handDown => ({ e with acks := e.acks ++ [(pendMsg, e.content readyMsg)] }, .iosOk)

def configureHandDownMsg (e : Endpoint) (fd : Int) (wLength : UInt16) :
    Except Fault Endpoint :=
  if wLength.toNat ≤ handDownMsgDataSize then
    .ok { e with handDown := { e.handDown with wLength := wLength, fd := fd } }
  else .error (.assertion .handDownSize)

structure PendingOutcome where
  ret : IosResult
  retMsg : Option ToOh1
  fwdToUsb : Bool

/-- `*fwd_to_usb` is true and `*ret_msg` is NULL on entry. -/
def handleBulkIntrPendingMessage (e : Endpoint) (pendMsg : IpcMessage) (size : UInt16) :
    Except Fault (Endpoint × PendingOutcome) :=
  let e := { e with requests := e.requests ++ [pendMsg] }
  match e.readyQ with
  | readyMsg :: rest =>
      let (e, ret) := copyAndAckIpcmessage { e with readyQ := rest } pendMsg readyMsg
      .ok (e, ⟨ret, none, false⟩)
  | [] =>
      let (e, ret) := e.sendPending pendMsg
      if ret = .iosOk ∧ e.handDownPending = false then
        match e.configureHandDownMsg pendMsg.fd size with
        | .ok e => .ok ({ e with handDownPending := true }, ⟨ret, some .handDown, true⟩)
        | .error fault => .error fault
      else .ok (e, ⟨ret, none, false⟩)

def handleBulkIntrReadyMessage (e : Endpoint) (readyMsg : ReadyMsg) : Endpoint × IosResult :=
  match e.pendingQ with
  | pendMsg :: rest =>
      copyAndAckIpcmessage
        { e with pendingQ := rest, produced := e.produced ++ [e.content readyMsg] } pendMsg readyMsg
  | [] => e.sendReady readyMsg

/-- The receive hook for a buffer request: what it returns to OH1, if anything. -/
def receiveMessage (e : Endpoint) (recvMsg : IpcMessage) :
    Except Fault (Endpoint × Option ToOh1) :=
  match e.handleBulkIntrPendingMessage recvMsg recvMsg.wLength with
  | .error fault => .error fault
  | .ok (e, outcome) =>
      if outcome.fwdToUsb then
        match outcome.retMsg with
        | none => .ok (e, some (.host recvMsg))
        | some msg => .ok ({ e with outstanding := e.outstanding + 1 }, some msg)
      else .ok (e, none)

def filled (e : Endpoint) (written : List UInt8) : List UInt8 :=
  written ++ e.handDown.data.drop written.length

/-- The reply hook for the hand-down message; `buffer` is its buffer after the HCI tracker. -/
def resourceReply (e : Endpoint) (retval : Int) (buffer : List UInt8) : Endpoint × IosResult :=
  handleBulkIntrReadyMessage
    { e with
        handDownPending := false
        outstanding := e.outstanding - 1
        handDown := { e.handDown with data := buffer, result := retval } }
    .handDown

end Endpoint

end Fakemote
