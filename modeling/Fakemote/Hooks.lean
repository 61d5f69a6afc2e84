import Fakemote.Runs

/-! The two hooks of `main.c` that stand between IOS and the OH1 module. The receive hook takes
messages out of OH1's queue until there is one for OH1; the reply hook acks what OH1 gives back.
Every message of the host has exactly one place. -/

namespace Fakemote

open Bytes Program Transition

def usbv0IoctlvCtrlmsg : UInt32 := 0
def usbv0IoctlvBlkmsg : UInt32 := 1
def usbv0IoctlvIntrmsg : UInt32 := 2

def epHciCtrl : UInt8 := 0x00
def epHciEvent : UInt8 := 0x81
def epAclDataIn : UInt8 := 0x82
def epAclDataOut : UInt8 := 0x02

/-- The memory of each buffer of the vector from its first byte on. -/
structure Ioctlv where
  command : UInt32
  vector : List (List UInt8)

/-- A message of the host; `ioctlv` is none for the other IPC commands. -/
structure HostMsg where
  addr : Nat
  fd : Int
  ioctlv : Option Ioctlv

/-- What `os_message_queue_receive` can find in OH1's queue: `0xcafef00d`, the cookie of the
periodic timer together with what `egc_handle_events` will report, or a message. -/
inductive Received
  | wakeUp
  | timer (events : List EgcEvent)
  | message (msg : HostMsg)

inductive Returned
  | wakeUp
  | message (msg : HostMsg)
  | handDown (ep : EndpointId)

inductive Handled
  | acked (retval : Int)
  | kept
  | give (out : Returned)

def vectorData (request : Ioctlv) (index : Nat) : Except Fault (List UInt8) :=
  orFault .outOfBounds request.vector[index]?

def HostMsg.withData (msg : HostMsg) (request : Ioctlv) (index : Nat) (data : List UInt8) :
    HostMsg :=
  { msg with ioctlv := some { request with vector := request.vector.set index data } }

def takeBuffer (ep : EndpointId) (msg : IpcMessage) : M Handled := do
  let s ← get
  let (e, out) ← (s.endpoint ep).receiveMessage msg
  modifyEndpoint ep fun _ => e
  match out with
  | none => return .kept
  | some _ => return .give (.handDown ep)

def handleOh1DevIoctlv (msg : HostMsg) (request : Ioctlv) : M Handled := do
  if request.command = usbv0IoctlvCtrlmsg then do
    let bRequest ← load8 (← vectorData request 1) 0
    if bRequest = epHciCtrl then do
      let wLength := le16toh (← load16 (← vectorData request 4) 0)
      let (fwdToUsb, data) ← hciStateHandleHciCmdFromHost (← vectorData request 6)
      if fwdToUsb then return .give (.message (msg.withData request 6 data))
      else return .acked wLength.toNat
    else return .give (.message msg)
  else if request.command = usbv0IoctlvBlkmsg then do
    let bEndpoint ← load8 (← vectorData request 0) 0
    if bEndpoint = epAclDataOut then do
      let wLength ← load16 (← vectorData request 1) 0
      let (fwdToUsb, data) ← hciStateHandleAclDataOutRequestFromHost (← vectorData request 2)
      if fwdToUsb then return .give (.message (msg.withData request 2 data))
      else return .acked wLength.toNat
    else if bEndpoint = epAclDataIn then do
      let wLength ← load16 (← vectorData request 1) 0
      takeBuffer .bulkIn ⟨msg.addr, msg.fd, wLength⟩
    else return .give (.message msg)
  else if request.command = usbv0IoctlvIntrmsg then do
    let bEndpoint ← load8 (← vectorData request 0) 0
    if bEndpoint = epHciEvent then do
      let wLength ← load16 (← vectorData request 1) 0
      takeBuffer .intr ⟨msg.addr, msg.fd, wLength⟩
    else return .give (.message msg)
  else return .give (.message msg)

def handleReceived : Received → M Handled
  | .wakeUp => return .give .wakeUp
  | .timer events => do
      periodicTimer events
      return .kept
  | .message msg =>
      match msg.ioctlv with
      | some request => handleOh1DevIoctlv msg request
      | none => return .give (.message msg)

/-- `queue` is OH1's queue. The other fields are history, by the addresses of the host's messages:
those that arrived in the queue, those taken out of it, those returned to OH1, those that OH1 has
not replied to, and those that the hooks acked. -/
structure Driver where
  world : World
  queue : List Received
  arrived : List Nat
  taken : List Nat
  returned : List Nat
  atOh1 : List Nat
  acked : List (Nat × Int)

abbrev D (α : Type) := Prog Driver Fault α

def onWorld {α : Type} (m : M α) : D α :=
  zoom Driver.world (fun d world => { d with world := world }) m

def messagesOf (queue : List Received) : List Nat :=
  queue.filterMap fun
    | .message msg => some msg.addr
    | _ => none

def Driver.take (d : Driver) (received : Received) (queue : List Received) : Driver :=
  { d with queue := queue, taken := d.taken ++ messagesOf [received] }

def Driver.settle (d : Driver) : Received → Handled → Driver
  | .message msg, .acked retval => { d with acked := d.acked ++ [(msg.addr, retval)] }
  | .message msg, .give (.message _) =>
      { d with returned := d.returned ++ [msg.addr], atOh1 := d.atOh1 ++ [msg.addr] }
  | _, _ => d

/-- `OH1_IOS_ReceiveMessage_hook` on OH1's queue. When nothing is left the hook waits: the next
call goes on from there. -/
def oh1IosReceiveMessageHook : List Received → D (Option Returned)
  | [] => return none
  | received :: queue => do
      modify fun d => d.take received queue
      let handled ← onWorld (handleReceived received)
      modify fun d => d.settle received handled
      match handled with
      | .give out => return some out
      | _ => oh1IosReceiveMessageHook queue

def oh1IosResourceReplyHook (addr : Nat) (retval : Int) : D Unit :=
  modify fun d =>
    { d with atOh1 := d.atOh1.erase addr, acked := d.acked ++ [(addr, retval)] }

inductive DriverInput
  | arrive (received : Received)
  | receive
  | reply (addr : Nat) (retval : Int)
  | replyHandDown (ep : EndpointId) (retval : Int) (written : List UInt8)

def handleDriver : DriverInput → D Unit
  | .arrive received => modify fun d =>
      { d with queue := d.queue ++ [received], arrived := d.arrived ++ messagesOf [received] }
  | .receive => do
      let d ← get
      let _ ← oh1IosReceiveMessageHook d.queue
  | .reply addr retval => oh1IosResourceReplyHook addr retval
  | .replyHandDown ep retval written => onWorld (oh1ResourceReply ep retval written)

def driverStep (d : Driver) (input : DriverInput) : Except Fault Driver :=
  match handleDriver input d with
  | .ok (_, t) => .ok t
  | .error fault => .error fault

def Owed (d : Driver) : DriverInput → Prop
  | .reply addr _ => addr ∈ d.atOh1
  | .replyHandDown ep retval written => Possible d.world (.handDownReply ep retval written)
  | _ => True

def Driver.init (env : Environment) : Driver := ⟨.init env, [], [], [], [], [], []⟩

def DriverRun (env : Environment) : Driver → Prop :=
  Reachable driverStep Owed (Driver.init env)

def World.requests (s : World) : List Nat :=
  (s.intr.requests ++ s.periphery.bulkIn.requests).map (·.addr)

theorem ready_requests (e : Endpoint) (msg : ReadyMsg) :
    (e.handleBulkIntrReadyMessage msg).1.requests = e.requests := by
  have acked (e : Endpoint) (pending : IpcMessage) :
      (Endpoint.copyAndAckIpcmessage e pending msg).1.requests = e.requests := by
    cases msg <;> rfl
  rcases e.handleBulkIntrReadyMessage_cases msg with ⟨pending, rest, -, result⟩ | ⟨-, result⟩ |
    ⟨-, result⟩
  · rw [result, acked]
  · rw [result]
  · rw [result]

theorem inject_requests {heap : Heap} {e : Endpoint} {packet : Packet} {done : Injection}
    (run : inject heap e packet = .ok done) : done.endpoint.requests = e.requests := by
  rcases inject_endpoint run with same | ⟨msg, result⟩
  · rw [same]
  · rw [result, ready_requests]

theorem Delivers.requests {s t : World} (delivers : Delivers s t) : t.requests = s.requests := by
  induction delivers with
  | still heap intr bulkIn => rw [World.requests, intr, bulkIn, World.requests]
  | event run heap intr bulkIn =>
      rw [World.requests, intr, bulkIn, inject_requests run, World.requests]
  | packet run heap intr bulkIn =>
      rw [World.requests, intr, bulkIn, inject_requests run, World.requests]
  | trans _ _ first second => exact second.trans first

theorem delivers_lift {α : Type} (x : Except Fault α) : Respects Delivers (liftM x : M α) :=
  .lift Delivers.refl x

theorem delivers_bind {α β : Type} {m : M α} {f : α → M β} (first : Respects Delivers m)
    (rest : ∀ a, Respects Delivers (f a)) : Respects Delivers (m >>= f) :=
  .bind (fun _ _ _ first second => .trans first second) first rest

theorem delivers_hciStateHandleHciCmdFromHost (data : List UInt8) :
    Respects Delivers (hciStateHandleHciCmdFromHost data) := by
  apply delivers_bind (delivers_lift _)
  intro opcode
  apply delivers_bind (steady_fakeWiimoteMgrHandleHciCmdFromHost _ _).respects
  intro handled
  apply Respects.ite (.pure Delivers.refl _)
  apply delivers_bind (.get Delivers.refl)
  intro s
  apply delivers_bind (delivers_lift _)
  intro snooped
  exact delivers_bind (Steady.modifyHci _).respects fun _ => .pure Delivers.refl _

theorem delivers_hciStateHandleAclDataOutRequestFromHost (data : List UInt8) :
    Respects Delivers (hciStateHandleAclDataOutRequestFromHost data) := by
  apply delivers_bind (delivers_lift _)
  intro word
  apply delivers_bind (steady_fakeWiimoteMgrHandleAclDataOutRequestFromHost _ _).respects
  intro handled
  apply Respects.ite (.pure Delivers.refl _)
  apply delivers_bind (.get Delivers.refl)
  intro s
  exact delivers_bind (delivers_lift _) fun _ => .pure Delivers.refl _

theorem oh1ResourceReply_requests {s t : World} {ep : EndpointId} {retval : Int}
    {written : List UInt8} {u : Unit} (run : oh1ResourceReply ep retval written s = .ok (u, t)) :
    t.requests = s.requests := by
  obtain ⟨_, _, got, run⟩ := bind_ok.mp run
  cases got
  obtain ⟨tracked, s1, tracking, run⟩ := bind_ok.mp run
  have same := trackReply_traffic tracking
  have intr : s1.intr = s.intr := congrArg (fun f => f.endpoint .intr) same
  have bulkIn : s1.periphery.bulkIn = s.periphery.bulkIn :=
    congrArg (fun f => f.endpoint .bulkIn) same
  cases ep with
  | intr =>
      cases run
      simp [World.requests, Endpoint.resourceReply, ready_requests, intr, bulkIn]
  | bulkIn =>
      cases run
      simp [World.requests, Endpoint.resourceReply, ready_requests, intr, bulkIn]

theorem receiveMessage_requests {e t : Endpoint} {msg : IpcMessage} {out : Option ToOh1}
    (run : e.receiveMessage msg = .ok (t, out)) : t.requests = e.requests ++ [msg] := by
  rcases Endpoint.receiveMessage_cases run with ⟨ready, rest, -, -, rfl⟩ | ⟨-, -, -, rfl⟩ |
    ⟨-, -, -, rfl⟩ | ⟨-, -, rfl⟩
  · cases ready <;> rfl
  · rfl
  · rfl
  · rfl

theorem takeBuffer_ok {s t : World} {ep : EndpointId} {msg : IpcMessage} {handled : Handled}
    (run : takeBuffer ep msg s = .ok (handled, t)) :
    step s (.bufferRequest ep msg) = .ok t ∧ t.requests.Perm (s.requests ++ [msg.addr]) ∧
      (handled = .kept ∨ handled = .give (.handDown ep)) := by
  obtain ⟨_, _, got, run⟩ := bind_ok.mp run
  cases got
  obtain ⟨⟨e, out⟩, s1, first, run⟩ := bind_ok.mp run
  obtain ⟨received, rfl⟩ := lift_ok.mp first
  obtain ⟨u, s2, modified, run⟩ := bind_ok.mp run
  have same : t = s2 := by
    cases out with
    | none => exact (Prod.mk.inj (Except.ok.inj run)).2.symm
    | some msg => exact (Prod.mk.inj (Except.ok.inj run)).2.symm
  subst same
  have requests := receiveMessage_requests received
  refine ⟨?_, ?_, ?_⟩
  · have inner : handleInput (.bufferRequest ep msg) s = .ok (u, t) := by
      change (get >>= fun s => liftM ((s.endpoint ep).receiveMessage msg) >>= fun r =>
        modifyEndpoint ep fun _ => r.1 : M Unit) s = _
      rw [bind_run (get_run s), received, bind_run (lift_run_ok _ _)]
      exact modified
    unfold step
    rw [inner]
  · cases ep with
    | intr =>
        cases modified
        have taken : e.requests = s.intr.requests ++ [msg] := requests
        simp only [World.requests, taken, List.map_append, List.map_cons, List.map_nil,
          List.append_assoc]
        exact List.Perm.append_left _ List.perm_append_comm
    | bulkIn =>
        cases modified
        have taken : e.requests = s.periphery.bulkIn.requests ++ [msg] := requests
        simp only [World.requests, taken, List.map_append, List.map_cons, List.map_nil,
          List.append_assoc]
        exact .refl _
  · cases out with
    | none => exact Or.inl (Prod.mk.inj (Except.ok.inj run)).1.symm
    | some msg => exact Or.inr (Prod.mk.inj (Except.ok.inj run)).1.symm

def Advances (s t : World) : Prop := t = s ∨ ∃ input, Possible s input ∧ step s input = .ok t

inductive Handles (s : World) : Received → Handled → World → Prop
  | wakeUp : Handles s .wakeUp (.give .wakeUp) s
  | timer {events : List EgcEvent} {t : World} (advances : Advances s t)
      (requests : t.requests = s.requests) : Handles s (.timer events) .kept t
  | returned {msg out : HostMsg} {t : World} (same : out.addr = msg.addr)
      (advances : Advances s t) (requests : t.requests = s.requests) :
      Handles s (.message msg) (.give (.message out)) t
  | acked {msg : HostMsg} {retval : Int} {t : World} (advances : Advances s t)
      (requests : t.requests = s.requests) : Handles s (.message msg) (.acked retval) t
  | buffered {msg : HostMsg} {ep : EndpointId} {handled : Handled} {t : World}
      (advances : Advances s t) (requests : t.requests.Perm (s.requests ++ [msg.addr]))
      (result : handled = .kept ∨ handled = .give (.handDown ep)) :
      Handles s (.message msg) handled t

theorem Handles.advances {s t : World} {received : Received} {handled : Handled}
    (handles : Handles s received handled t) : Advances s t := by
  cases handles with
  | wakeUp => exact Or.inl rfl
  | timer advances _ => exact advances
  | returned _ advances _ => exact advances
  | acked advances _ => exact advances
  | buffered advances _ _ => exact advances

theorem Handles.untouched (s : World) (msg : HostMsg) :
    Handles s (.message msg) (.give (.message msg)) s :=
  .returned rfl (Or.inl rfl) rfl

theorem step_of_handled {s t : World} {input : Input} {u : Unit}
    (run : handleInput input s = .ok (u, t)) : step s input = .ok t := by
  unfold step
  rw [run]

theorem hciCommand_handles {s t : World} {msg : HostMsg} {data : List UInt8}
    {result : Bool × List UInt8} {handled : Handled}
    (run : hciStateHandleHciCmdFromHost data s = .ok (result, t))
    (outcome : (∃ out : HostMsg, out.addr = msg.addr ∧ handled = .give (.message out)) ∨
      ∃ retval, handled = .acked retval) :
    Handles s (.message msg) handled t := by
  have stepped : step s (.hciCommand data) = .ok t := by
    apply @step_of_handled s t _ ()
    exact bind_ok.mpr ⟨result, t, run, rfl⟩
  have possible : Possible s (.hciCommand data) := trivial
  have advances : Advances s t := Or.inr ⟨_, possible, stepped⟩
  have requests := (delivers_hciStateHandleHciCmdFromHost data s result t run).requests
  rcases outcome with ⟨out, same, rfl⟩ | ⟨retval, rfl⟩
  · exact .returned same advances requests
  · exact .acked advances requests

theorem aclOut_handles {s t : World} {msg : HostMsg} {data : List UInt8}
    {result : Bool × List UInt8} {handled : Handled}
    (run : hciStateHandleAclDataOutRequestFromHost data s = .ok (result, t))
    (outcome : (∃ out : HostMsg, out.addr = msg.addr ∧ handled = .give (.message out)) ∨
      ∃ retval, handled = .acked retval) :
    Handles s (.message msg) handled t := by
  have stepped : step s (.aclOut data) = .ok t := by
    apply @step_of_handled s t _ ()
    exact bind_ok.mpr ⟨result, t, run, rfl⟩
  have possible : Possible s (.aclOut data) := trivial
  have advances : Advances s t := Or.inr ⟨_, possible, stepped⟩
  have requests := (delivers_hciStateHandleAclDataOutRequestFromHost data s result t run).requests
  rcases outcome with ⟨out, same, rfl⟩ | ⟨retval, rfl⟩
  · exact .returned same advances requests
  · exact .acked advances requests

theorem takeBuffer_handles {s t : World} {msg : HostMsg} {ep : EndpointId} {wLength : UInt16}
    {handled : Handled} (run : takeBuffer ep ⟨msg.addr, msg.fd, wLength⟩ s = .ok (handled, t)) :
    Handles s (.message msg) handled t := by
  obtain ⟨stepped, requests, result⟩ := takeBuffer_ok run
  have possible : Possible s (.bufferRequest ep ⟨msg.addr, msg.fd, wLength⟩) := trivial
  exact .buffered (Or.inr ⟨_, possible, stepped⟩) requests result

theorem forwarded_outcome {s t : World} {msg : HostMsg} {request : Ioctlv} {index : Nat}
    {fwdToUsb : Bool} {data : List UInt8} {retval : Int} {handled : Handled}
    (run : (if fwdToUsb then pure (.give (.message (msg.withData request index data)))
      else pure (.acked retval) : M Handled) s = .ok (handled, t)) :
    t = s ∧ ((∃ out : HostMsg, out.addr = msg.addr ∧ handled = .give (.message out)) ∨
      ∃ retval, handled = .acked retval) := by
  rcases ite_run run with ⟨-, run⟩ | ⟨-, run⟩
  · cases run
    exact ⟨rfl, Or.inl ⟨msg.withData request index data, rfl, rfl⟩⟩
  · cases run
    exact ⟨rfl, Or.inr ⟨retval, rfl⟩⟩

theorem handleOh1DevIoctlv_handles {s t : World} {msg : HostMsg} {request : Ioctlv}
    {handled : Handled} (run : handleOh1DevIoctlv msg request s = .ok (handled, t)) :
    Handles s (.message msg) handled t := by
  unfold handleOh1DevIoctlv at run
  rcases ite_run run with ⟨-, run⟩ | ⟨-, run⟩
  · obtain ⟨bytes, -, run⟩ := lift_bind_ok.mp run
    obtain ⟨bRequest, -, run⟩ := lift_bind_ok.mp run
    rcases ite_run run with ⟨-, run⟩ | ⟨-, run⟩
    · obtain ⟨bytes, -, run⟩ := lift_bind_ok.mp run
      obtain ⟨wLength, -, run⟩ := lift_bind_ok.mp run
      obtain ⟨data, -, run⟩ := lift_bind_ok.mp run
      obtain ⟨result, s1, command, run⟩ := bind_ok.mp run
      obtain ⟨rfl, outcome⟩ := forwarded_outcome run
      exact hciCommand_handles command outcome
    · cases run
      exact .untouched s msg
  · rcases ite_run run with ⟨-, run⟩ | ⟨-, run⟩
    · obtain ⟨bytes, -, run⟩ := lift_bind_ok.mp run
      obtain ⟨bEndpoint, -, run⟩ := lift_bind_ok.mp run
      rcases ite_run run with ⟨-, run⟩ | ⟨-, run⟩
      · obtain ⟨bytes, -, run⟩ := lift_bind_ok.mp run
        obtain ⟨wLength, -, run⟩ := lift_bind_ok.mp run
        obtain ⟨data, -, run⟩ := lift_bind_ok.mp run
        obtain ⟨result, s1, packet, run⟩ := bind_ok.mp run
        obtain ⟨rfl, outcome⟩ := forwarded_outcome run
        exact aclOut_handles packet outcome
      · rcases ite_run run with ⟨-, run⟩ | ⟨-, run⟩
        · obtain ⟨bytes, -, run⟩ := lift_bind_ok.mp run
          obtain ⟨wLength, -, run⟩ := lift_bind_ok.mp run
          exact takeBuffer_handles run
        · cases run
          exact .untouched s msg
    · rcases ite_run run with ⟨-, run⟩ | ⟨-, run⟩
      · obtain ⟨bytes, -, run⟩ := lift_bind_ok.mp run
        obtain ⟨bEndpoint, -, run⟩ := lift_bind_ok.mp run
        rcases ite_run run with ⟨-, run⟩ | ⟨-, run⟩
        · obtain ⟨bytes, -, run⟩ := lift_bind_ok.mp run
          obtain ⟨wLength, -, run⟩ := lift_bind_ok.mp run
          exact takeBuffer_handles run
        · cases run
          exact .untouched s msg
      · cases run
        exact .untouched s msg

theorem handleReceived_handles {s t : World} {received : Received} {handled : Handled}
    (run : handleReceived received s = .ok (handled, t)) : Handles s received handled t := by
  cases received with
  | wakeUp =>
      cases run
      exact .wakeUp
  | timer events =>
      obtain ⟨u, s1, timed, run⟩ := bind_ok.mp run
      cases run
      have stepped : step s (.timer events) = .ok t := step_of_handled timed
      have possible : Possible s (.timer events) := trivial
      exact .timer (Or.inr ⟨_, possible, stepped⟩)
        ((steady_periodicTimer events).respects s u t timed).requests
  | message msg =>
      cases request : msg.ioctlv with
      | none =>
          simp only [handleReceived, request] at run
          cases run
          exact .untouched s msg
      | some ioctlv =>
          simp only [handleReceived, request] at run
          exact handleOh1DevIoctlv_handles run

structure Driver.Accounted (env : Environment) (d : Driver) : Prop where
  reached : Run env anyInput d.world
  arrived : d.arrived = d.taken ++ messagesOf d.queue
  ordered : d.returned.Sublist d.taken
  places : d.taken.Perm (d.atOh1 ++ d.acked.map Prod.fst ++ d.world.requests)

theorem Advances.reached {env : Environment} {s t : World} (advances : Advances s t)
    (reached : Run env anyInput s) : Run env anyInput t := by
  rcases advances with same | ⟨input, possible, run⟩
  · rw [same]
    exact reached
  · exact .next reached ⟨possible, trivial⟩ run

namespace Driver.Accounted

variable {env : Environment} {d : Driver} {queue : List Received} {received : Received}

theorem round {handled : Handled} {world : World} (accounted : d.Accounted env)
    (head : d.queue = received :: queue) (handles : Handles d.world received handled world) :
    (Driver.settle { d.take received queue with world := world } received handled).Accounted
      env := by
  have reached := handles.advances.reached accounted.reached
  have arrived : d.arrived = (d.taken ++ messagesOf [received]) ++ messagesOf queue := by
    have split : messagesOf (received :: queue) = messagesOf [received] ++ messagesOf queue :=
      @List.filterMap_append _ _ [received] queue _
    rw [accounted.arrived, head, List.append_assoc, split]
  have places (addr : Nat) := accounted.places.count_eq addr
  simp only [List.count_append] at places
  cases handles with
  | wakeUp =>
      refine ⟨reached, arrived, ?_, List.perm_iff_count.mpr fun addr => ?_⟩
      · exact accounted.ordered.trans (List.sublist_append_left _ _)
      · simp only [Driver.settle, Driver.take, List.count_append, places]
        rfl
  | timer advances requests =>
      refine ⟨reached, arrived, ?_, List.perm_iff_count.mpr fun addr => ?_⟩
      · exact accounted.ordered.trans (List.sublist_append_left _ _)
      · simp only [Driver.settle, Driver.take, List.count_append, places, requests]
        rfl
  | @returned msg out t same advances requests =>
      refine ⟨reached, arrived, accounted.ordered.append (.refl _), ?_⟩
      apply List.perm_iff_count.mpr
      intro addr
      have one : messagesOf [.message msg] = [msg.addr] := rfl
      simp only [Driver.settle, Driver.take, List.count_append, places, requests, one]
      omega
  | @acked msg retval t advances requests =>
      refine ⟨reached, arrived, ?_, List.perm_iff_count.mpr fun addr => ?_⟩
      · exact accounted.ordered.trans (List.sublist_append_left _ _)
      · have one : messagesOf [.message msg] = [msg.addr] := rfl
        simp only [Driver.settle, Driver.take, List.count_append, places, requests, one,
          List.map_append, List.map_cons, List.map_nil]
        omega
  | @buffered msg ep handled t advances requests result =>
      have settled : Driver.settle { d.take (.message msg) queue with world := world }
          (.message msg) handled = { d.take (.message msg) queue with world := world } := by
        rcases result with rfl | rfl
        · rfl
        · rfl
      rw [settled]
      refine ⟨reached, arrived, ?_, List.perm_iff_count.mpr fun addr => ?_⟩
      · exact accounted.ordered.trans (List.sublist_append_left _ _)
      · have one : messagesOf [.message msg] = [msg.addr] := rfl
        have more := requests.count_eq addr
        simp only [Driver.take, List.count_append, places, one, more]
        omega

/-- The loop of the receive hook, by induction on the queue. -/
theorem receiveHook {out : Option Returned} {t : Driver} (accounted : d.Accounted env)
    (all : d.queue = queue) (run : oh1IosReceiveMessageHook queue d = .ok (out, t)) :
    t.Accounted env := by
  induction queue generalizing d with
  | nil =>
      cases run
      exact accounted
  | cons received queue ih =>
      obtain ⟨u, d1, first, run⟩ := bind_ok.mp run
      cases first
      obtain ⟨handled, d2, second, run⟩ := bind_ok.mp run
      obtain ⟨world, received_run, rfl⟩ := zoom_ok.mp second
      obtain ⟨u, d3, third, run⟩ := bind_ok.mp run
      cases third
      have rounded := accounted.round all (handleReceived_handles received_run)
      have rest : (Driver.settle { d.take received queue with world := world } received
          handled).queue = queue := by
        unfold Driver.settle
        split <;> rfl
      cases handled with
      | give out =>
          cases run
          exact rounded
      | acked retval => exact ih rounded rest run
      | kept => exact ih rounded rest run

theorem step {t : Driver} {input : DriverInput} (accounted : d.Accounted env)
    (owed : Owed d input) (run : driverStep d input = .ok t) : t.Accounted env := by
  unfold driverStep at run
  split at run
  case h_2 => cases run
  case h_1 u after handled =>
    cases run
    cases input with
    | arrive received =>
        cases handled
        refine ⟨accounted.reached, ?_, accounted.ordered, accounted.places⟩
        have arrived := accounted.arrived
        simp only [messagesOf, List.filterMap_append] at arrived ⊢
        rw [arrived, List.append_assoc]
    | receive =>
        obtain ⟨_, _, got, handled⟩ := bind_ok.mp handled
        cases got
        obtain ⟨out, d1, hook, handled⟩ := bind_ok.mp handled
        cases handled
        exact accounted.receiveHook rfl hook
    | reply addr retval =>
        cases handled
        refine ⟨accounted.reached, accounted.arrived, accounted.ordered, ?_⟩
        apply accounted.places.trans
        have moved : d.atOh1.Perm (addr :: d.atOh1.erase addr) := List.perm_cons_erase owed
        apply List.perm_iff_count.mpr
        intro other
        have more := moved.count_eq other
        simp only [List.count_append, List.count_cons, List.map_append, List.map_cons,
          List.map_nil, List.count_nil] at more ⊢
        omega
    | replyHandDown ep retval written =>
        change onWorld (oh1ResourceReply ep retval written) d = _ at handled
        obtain ⟨world, replied, rfl⟩ := zoom_ok.mp handled
        have stepped : Fakemote.step d.world (.handDownReply ep retval written) = .ok world :=
          step_of_handled replied
        have possible : Possible d.world (.handDownReply ep retval written) := owed
        refine ⟨.next accounted.reached ⟨possible, trivial⟩ stepped, accounted.arrived,
          accounted.ordered, ?_⟩
        rw [oh1ResourceReply_requests replied]
        exact accounted.places

end Driver.Accounted

/-- Where an endpoint has the buffer requests that came to it: acked, parked, or without an owner
since their send failed. -/
def Endpoint.places (e : Endpoint) : List Nat :=
  (e.acks.map Prod.fst ++ e.pendingQ ++ e.droppedRequests).map (·.addr)

/-- The hooks only run the module, message after message in the order of the queue, and every
message of the host is in exactly one place: still in the queue, at OH1, acked by a hook, or with
the endpoint whose buffer it brought. -/
theorem host_messages_in_one_place {env : Environment} {d : Driver} (reached : DriverRun env d) :
    Run env anyInput d.world ∧ d.arrived = d.taken ++ messagesOf d.queue ∧
      d.returned.Sublist d.taken ∧
      d.taken.Perm (d.atOh1 ++ d.acked.map Prod.fst ++
        (d.world.intr.places ++ d.world.periphery.bulkIn.places)) := by
  have accounted : d.Accounted env := by
    apply reached.invariant (Driver.Accounted env)
    · exact ⟨.start, rfl, .refl _, .refl _⟩
    · intro d t input accounted owed run
      exact accounted.step owed run
  have intr := (accounted.reached.sound .intr).taken
  have bulkIn := (accounted.reached.sound .bulkIn).taken
  refine ⟨accounted.reached, accounted.arrived, accounted.ordered, accounted.places.trans ?_⟩
  apply List.Perm.append_left
  rw [World.requests, List.map_append]
  exact (intr.map _).append (bulkIn.map _)

instance decidableOwed (d : Driver) : (input : DriverInput) → Decidable (Owed d input)
  | .reply addr _ => inferInstanceAs (Decidable (addr ∈ d.atOh1))
  | .replyHandDown ep retval written =>
      inferInstanceAs (Decidable (Possible d.world (.handDownReply ep retval written)))
  | .arrive _ | .receive => .isTrue trivial

def controlMsg (addr : Nat) (data : List UInt8) : HostMsg :=
  ⟨addr, 0, some ⟨usbv0IoctlvCtrlmsg, [[0x20], [epHciCtrl], [0, 0], [0, 0], [4, 0], [0], data]⟩⟩

def eventBuffer (addr : Nat) : HostMsg :=
  ⟨addr, 0, some ⟨usbv0IoctlvIntrmsg, [[epHciEvent], [0, 64]]⟩⟩

/-- One of two buffers leads to a hand-down message, which OH1 replies to after the command. -/
def hostTalks : List DriverInput :=
  [.arrive (.message (eventBuffer 1)), .arrive (.message (eventBuffer 2)),
    .arrive (.message (controlMsg 3 [0x1A, 0x0C, 1, hciPageScanEnable])), .receive, .receive,
    .reply 3 4, .replyHandDown .intr 6 [0x0E, 0x04, 0x01, 0x1A, 0x0C, 0x00],
    .arrive (.timer []), .receive]

theorem host_messages_in_one_place_talk :
    ∃ d, DriverRun .lenient d ∧ d.acked = [(3, 4)] ∧ d.world.intr.acks.length = 1 ∧
      d.taken.Perm (d.atOh1 ++ d.acked.map Prod.fst ++
        (d.world.intr.places ++ d.world.periphery.bulkIn.places)) := by
  obtain ⟨d, reached, checked⟩ : ∃ d, DriverRun .lenient d ∧
      decide (d.acked = [(3, 4)] ∧ d.world.intr.acks.length = 1) = true :=
    exists_of_execute hostTalks (by decide +kernel)
  obtain ⟨acked, acks⟩ := of_decide_eq_true checked
  exact ⟨d, reached, acked, acks, (host_messages_in_one_place reached).2.2.2⟩

end Fakemote
