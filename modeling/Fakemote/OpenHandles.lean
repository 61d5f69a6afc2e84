import Fakemote.CommandDispatch
import Fakemote.HostView

/-! The handles that the host may use. The host reads Connection and Disconnection Complete events
from its acked buffers; a handle it takes to be open has a fake Wiimote or an entry of the map, as
long as no Disconnection Complete event for it is still on its way. -/

namespace Fakemote

open Bytes Program Ledger Transition

def opens (handle : UInt16) (before : Bool) (reply : Reply) : Bool :=
  match lifecycleEvent reply.data with
  | some (.complete _ h) => if h = handle then true else before
  | some (.disconnect h) => if h = handle then false else before
  | _ => before

def isOpen (contents : List Reply) (handle : UInt16) : Bool := contents.foldl (opens handle) false

def Closes (handle : UInt16) (reply : Reply) : Prop :=
  lifecycleEvent reply.data = some (.disconnect handle)

theorem opens_eq_true {handle : UInt16} {before : Bool} {reply : Reply} :
    opens handle before reply = true ↔
      (∃ bdaddr, lifecycleEvent reply.data = some (.complete bdaddr handle)) ∨
        before = true ∧ ¬Closes handle reply := by
  unfold opens Closes
  rcases event : lifecycleEvent reply.data with _ | (bdaddr | ⟨bdaddr, h⟩ | h)
  · simp
  · simp
  · by_cases same : h = handle
    · simp [same]
    · simp [same]
  · by_cases same : h = handle
    · simp [same]
    · simp [same]

theorem foldl_opens {handle : UInt16} {replies : List Reply} :
    ∀ {before : Bool}, replies.foldl (opens handle) before = true →
      (∃ reply ∈ replies, ∃ bdaddr,
        lifecycleEvent reply.data = some (.complete bdaddr handle)) ∨
      before = true ∧ ∀ reply ∈ replies, ¬Closes handle reply := by
  induction replies with
  | nil =>
      intro before holds
      exact Or.inr ⟨holds, fun reply member => by cases member⟩
  | cons reply replies ih =>
      intro before holds
      rcases ih holds with ⟨later, member, completes⟩ | ⟨still, unclosed⟩
      · exact Or.inl ⟨later, List.mem_cons_of_mem _ member, completes⟩
      · rcases opens_eq_true.mp still with completes | ⟨open_, kept⟩
        · exact Or.inl ⟨reply, List.mem_cons_self, completes⟩
        · refine Or.inr ⟨open_, ?_⟩
          intro r member
          rcases List.mem_cons.mp member with same | member
          · rw [same]
            exact kept
          · exact unclosed r member

theorem foldl_opens_kept {handle : UInt16} {replies : List Reply} :
    (∀ reply ∈ replies, ¬Closes handle reply) → replies.foldl (opens handle) true = true := by
  induction replies with
  | nil => exact fun _ => rfl
  | cons reply replies ih =>
      intro unclosed
      have first : opens handle true reply = true :=
        opens_eq_true.mpr (Or.inr ⟨rfl, unclosed reply List.mem_cons_self⟩)
      rw [List.foldl_cons, first]
      exact ih fun r member => unclosed r (List.mem_cons_of_mem _ member)

/-- Somebody has the handle: a connected fake Wiimote, or a connection of the controller. -/
def HandleOwned (core : Core) (handle : UInt16) : Prop :=
  (∃ w, (core.links w).isConnected = true ∧ (core.links w).hciConHandle = handle) ∨
    ∃ e ∈ core.hci.table.live, e.virt = handle

def disconnects (data : List UInt8) : Prop :=
  load8 data 0 = .ok hciEventDisconCompl ∧ load8 data hciEventHdrSize = .ok 0

/-- The length of a content that reaches past the handle of a Disconnection Complete event. -/
def reachesHandle (retval : Int) : Prop := 5 ≤ retval.toNat % 65536

def safeOpen (core : Core) : Label → Prop
  | .accept w => (core.links w).active = true ∧ (core.links w).basebandState ≠ .complete
  | .reply retval buffer _ _ placed =>
      0 < retval → disconnects buffer → placed = true ∧ reachesHandle retval
  | .forget _ | .reset => False
  | _ => True

/-- A connection of a fake Wiimote goes on, or a Disconnection Complete event is tried. -/
theorem connected_kept {a : Ledger} {label : Label} (enabled : a.Enabled label)
    (safe : safeOpen a.core label) {v : WiimoteId}
    (connected : (a.core.links v).isConnected = true) :
    (((a.act label).core.links v).isConnected = true ∧
      ((a.act label).core.links v).hciConHandle = (a.core.links v).hciConHandle) ∨
    ∃ placed, a.attempt label =
      some (hciEventDisconCompl, disconComplEvent (a.core.links v).hciConHandle, placed) := by
  obtain ⟨active, complete⟩ := isConnected_iff.mp connected
  rw [act_links]
  cases label with
  | assign w d =>
      left
      dsimp only [Label.relink]
      split
      · rename_i same
        subst same
        rw [enabled.1] at active
        cases active
      · exact ⟨connected, rfl⟩
  | request w placed =>
      left
      dsimp only [Label.relink]
      split
      · rename_i same
        obtain ⟨rfl, -⟩ := same
        rw [enabled.2] at complete
        cases complete
      · exact ⟨connected, rfl⟩
  | accept w =>
      left
      dsimp only [Label.relink]
      split
      · rename_i same
        subst same
        exact absurd complete safe.2
      · exact ⟨connected, rfl⟩
  | disconnect w placed =>
      by_cases same : v = w
      · subst same
        right
        exact ⟨placed, if_pos complete⟩
      · left
        dsimp only [Label.relink]
        rw [if_neg same]
        exact ⟨connected, rfl⟩
  | remove d placed =>
      by_cases assigned : (a.core.slots d).assignedWiimote = some v
      · right
        refine ⟨placed, ?_⟩
        simp only [attempt, assigned, Option.bind_some]
        exact if_pos complete
      · left
        dsimp only [Label.relink]
        rw [if_neg assigned]
        exact ⟨connected, rfl⟩
  | consume w =>
      left
      dsimp only [Label.relink]
      split
      · exact ⟨connected, rfl⟩
      · exact ⟨connected, rfl⟩
  | credit placed =>
      left
      dsimp only [Label.relink]
      rw [resetCount_isConnected, resetCount_hciConHandle]
      exact ⟨connected, rfl⟩
  | forget | reset => exact safe.elim
  | event | plug | tickSlots | snoop | reply => exact Or.inl ⟨connected, rfl⟩

theorem disconnect_closes {hci after : HciState} {data out : List UInt8} {retval : Int}
    {virt : UInt16} (tracked : Tracked hci data after out) (disconnecting : disconnects data)
    (positive : 0 < retval) (reaches : reachesHandle retval)
    (stored : load16 out (hciEventHdrSize + 1) = .ok (htole16 virt))
    (status : load8 out hciEventHdrSize = .ok 0) :
    Closes virt (Endpoint.handDownContent retval out) := by
  have long : 5 ≤ retval.toNat % 65536 := reaches
  unfold Closes Endpoint.handDownContent
  rw [if_pos positive]
  refine lifecycleEvent_disconnect.mpr ⟨?_, ?_, ?_⟩
  · rw [load8_ok, show (out.take (retval.toNat % 65536))[0]? = _ from load8_take _ _ _,
      if_pos (by omega)]
    exact load8_ok.mp (tracked.code.trans disconnecting.1)
  · rw [load8_ok, show (out.take (retval.toNat % 65536))[hciEventHdrSize]? = _ from
      load8_take _ _ _, if_pos (by simp only [hciEventHdrSize]; omega)]
    exact load8_ok.mp status
  · rw [load16_ok, load16_take, if_pos (by simp only [hciEventHdrSize]; omega)]
    exact load16_ok.mp stored

theorem entry_kept {a : Ledger} {label : Label} (enabled : a.Enabled label)
    (safe : safeOpen a.core label) {e : MapEntry} (live : e ∈ a.core.hci.table.live) :
    (∃ f ∈ (a.act label).core.hci.table.live, f.virt = e.virt) ∨
      ∃ reply ∈ a.delivered label, Closes e.virt reply := by
  by_cases untouched : label.touchesHci = false
  · left
    rw [act_hci untouched]
    exact ⟨e, live, rfl⟩
  · cases label with
    | snoop hci =>
        left
        rw [show (a.act (.snoop hci)).core.hci.table = a.core.hci.table from enabled.1]
        exact ⟨e, live, rfl⟩
    | accept w =>
        left
        rw [accept_core]
        exact ⟨e, live, rfl⟩
    | reset => exact safe.elim
    | reply retval buffer tracked hci placed =>
        simp only [Enabled] at enabled
        split at enabled
        · rename_i positive
          have tracks := handleEvent_tracked enabled
          have followed := tracks
          cases tracks with
          | connected event status physAt mapped stored =>
              left
              have entered := (ConHandleMap.hciVirtConHandleMap_live mapped).mem_iff.mpr
                (List.mem_cons_of_mem _ live)
              exact ⟨e, entered, rfl⟩
          | disconnected event status physAt found unmapped stored =>
              obtain ⟨gone, virt, perm⟩ := ConHandleMap.hciVirtConHandleUnmapVirt_live unmapped
              rcases List.mem_cons.mp (perm.mem_iff.mp live) with same | stays
              · right
                obtain ⟨rfl, reaches⟩ := safe positive ⟨event, status⟩
                refine ⟨_, List.mem_singleton_self _, ?_⟩
                rw [same, virt]
                exact disconnect_closes followed ⟨event, status⟩ positive reaches
                  (load16_store16 stored) ((load8_store16 stored (by decide)).trans status)
              · exact Or.inl ⟨e, stays, rfl⟩
          | _ => exact Or.inl ⟨e, live, rfl⟩
        · left
          rw [show (a.act (.reply retval buffer tracked hci placed)).core.hci = a.core.hci from
            enabled.1]
          exact ⟨e, live, rfl⟩
    | _ => exact absurd rfl untouched

theorem completed_owned {a : Ledger} {label : Label} (enabled : a.Enabled label)
    (safe : safeOpen a.core label) {reply : Reply} (member : reply ∈ a.delivered label)
    {bdaddr : BdAddr} {handle : UInt16}
    (completes : lifecycleEvent reply.data = some (.complete bdaddr handle)) :
    HandleOwned (a.act label).core handle := by
  by_cases injects : label.injects = true
  · have placed : ∃ data ∈ placedBy (a.attempt label), asReply data = reply := by
      cases label with
      | reply => cases injects
      | _ => exact List.mem_map.mp member
    obtain ⟨data, placed, rfl⟩ := placed
    obtain ⟨w, rfl, -⟩ := complete_accept enabled placed completes
    left
    refine ⟨w, ?_⟩
    simp only [attempt, placedBy, List.mem_singleton] at placed
    rw [placed, asReply, lifecycleEvent_conCompl] at completes
    cases completes
    rw [act_links]
    simp only [Label.relink, if_true]
    exact ⟨isConnected_iff.mpr ⟨safe.1, rfl⟩, trivial⟩
  · cases label with
    | reply retval buffer tracked hci placed =>
        simp only [delivered] at member
        split at member
        · rw [List.mem_singleton.mp member] at completes
          simp only [Endpoint.handDownContent] at completes
          simp only [Enabled] at enabled
          split at enabled
          · rename_i positive
            rw [if_pos positive] at completes
            obtain ⟨-, -, -, entry⟩ := (handleEvent_tracked enabled).completed completes
            exact Or.inr entry
          · rename_i failed
            rw [if_neg failed] at completes
            simp [lifecycleEvent, load8, Bytes.load8, orFault] at completes
        · cases member
    | _ => exact absurd rfl injects

/-- The ledgers that a step passes through; `mark` is where the contents since the last reset
begin. -/
structure Known (mark : Nat) (a : Ledger) : Prop where
  past : mark ≤ a.produced.length
  owned : hciEventDisconCompl ∉ a.lost →
    ∀ handle, isOpen (a.produced.drop mark) handle = true → HandleOwned a.core handle

theorem Known.act {mark : Nat} {a : Ledger} {label : Label} (known : Known mark a)
    (enabled : a.Enabled label) (safe : safeOpen a.core label) : Known mark (a.act label) where
  past := by
    rw [act_produced, List.length_append]
    exact Nat.le_add_right_of_le known.past
  owned := by
    intro told handle opened
    rw [(act_events a label).2, List.mem_append, not_or] at told
    rw [act_produced, List.drop_append_of_le_length known.past, isOpen, List.foldl_append]
      at opened
    rcases foldl_opens opened with ⟨reply, member, bdaddr, completes⟩ | ⟨before, unclosed⟩
    · exact completed_owned enabled safe member completes
    · rcases known.owned told.1 handle before with ⟨v, connected, rfl⟩ | ⟨e, live, rfl⟩
      · rcases connected_kept enabled safe connected with kept | ⟨placed, tried⟩
        · exact Or.inl ⟨v, kept⟩
        · have injects : label.injects = true := by
            cases label with
            | reply => cases tried
            | _ => rfl
          cases placed with
          | false =>
              rw [tried] at told
              exact absurd (List.mem_singleton_self _) told.2
          | true =>
              refine absurd ?_
                (unclosed (asReply (disconComplEvent (a.core.links v).hciConHandle)) ?_)
              · exact lifecycleEvent_disconCompl _
              · have placed : a.delivered label = (placedBy (a.attempt label)).map asReply := by
                  cases label with
                  | reply => cases injects
                  | _ => rfl
                rw [placed, tried]
                exact List.mem_singleton_self _
      · rcases entry_kept enabled safe live with stays | ⟨reply, member, closes⟩
        · exact Or.inr stays
        · exact absurd closes (unclosed reply member)

def Takes (e : Endpoint) : Prop :=
  e.pendingQ ≠ [] ∨ e.readyQ.length < e.readyCap ∧ e.refuse e.sends = false

theorem resourceReply_takes {e : Endpoint} (takes : Takes e) (retval : Int)
    (buffer : List UInt8) : (e.resourceReply retval buffer).2 = .iosOk := by
  unfold Endpoint.resourceReply Endpoint.handleBulkIntrReadyMessage
  split
  · rfl
  · rename_i empty
    rcases takes with waiting | room
    · exact absurd empty waiting
    · exact congrArg Prod.snd (if_pos room)

theorem intrReply_produced {s t : World} {retval : Int} {written : List UInt8}
    (run : step s (.handDownReply .intr retval written) = .ok t) (takes : Takes s.intr) :
    t.intr.produced.length = s.intr.produced.length + 1 := by
  unfold step at run
  cases handled : handleInput (.handDownReply .intr retval written) s with
  | error fault =>
      rw [handled] at run
      cases run
  | ok result =>
      obtain ⟨u, after⟩ := result
      rw [handled] at run
      cases run
      obtain ⟨_, _, got, rest⟩ := bind_ok.mp handled
      cases got
      obtain ⟨tracked, s1, tracking, rest⟩ := bind_ok.mp rest
      have same : s1.intr = s.intr := by
        unfold trackReply at tracking
        split at tracking
        · obtain ⟨_, _, got, tracking⟩ := bind_ok.mp tracking
          cases got
          obtain ⟨⟨hci, bytes⟩, s2, translated, tracking⟩ := bind_ok.mp tracking
          obtain ⟨-, rfl⟩ := lift_ok.mp translated
          cases tracking
          rfl
        · cases tracking
          rfl
      cases rest
      change ((s1.intr.resourceReply retval tracked).1.produced).length = _
      rw [same, resourceReply_produced, if_pos (resourceReply_takes takes retval tracked),
        List.length_append]
      rfl

/-- When the host's view of its handles stays right. A fake Wiimote is accepted only while it
waits for it, and a Disconnection Complete event of the controller carries its handle and is
taken. -/
def openCondition (s : World) : Input → Prop
  | .hciCommand data => ∀ w, addressed hciCmdAcceptCon s.core data = some w →
      (s.core.links w).active = true ∧ (s.core.links w).basebandState ≠ .complete
  | .handDownReply .intr retval written => 0 < retval → disconnects (s.intr.filled written) →
      reachesHandle retval ∧ Takes s.intr
  | _ => True

/-- Where the contents that follow the last reset command begin. -/
def sinceReset (mark : Nat) (_ : World) (input : Input) (after : World) : Nat :=
  match input with
  | .hciCommand data =>
      if commandOpcode data = some hciCmdReset then after.intr.produced.length else mark
  | _ => mark

theorem safeOpen_free (core : Core) (label : Label) (unguarded : label.guarded = false) :
    safeOpen core label := by
  cases label with
  | accept | forget | reset | reply => cases unguarded
  | _ => trivial

theorem known_step {s t : World} {mark : Nat} {input : Input} (run : step s input = .ok t)
    (condition : openCondition s input) (known : Known mark s.ledger) :
    Known (sinceReset mark s input t) t.ledger := by
  by_cases reset : ∃ data, input = .hciCommand data ∧ commandOpcode data = some hciCmdReset
  · -- The contents begin anew, so that no handle is open.
    obtain ⟨data, rfl, opcode⟩ := reset
    have mark : sinceReset mark s (.hciCommand data) t = t.intr.produced.length := if_pos opcode
    rw [mark]
    refine ⟨Nat.le_refl _, ?_⟩
    intro _ handle opened
    rw [show t.ledger.produced = t.intr.produced from rfl, List.drop_length] at opened
    cases opened
  · have same : sinceReset mark s input t = mark := by
      cases input with
      | hciCommand data => exact if_neg fun opcode => reset ⟨data, rfl, opcode⟩
      | _ => rfl
    rw [same]
    obtain ⟨labels, moves, path⟩ := step_moves run
    have accepts : ∀ data, input = .hciCommand data → ∀ w,
        addressed hciCmdAcceptCon s.core data = some w → safeOpen s.core (.accept w) := by
      rintro data rfl w found
      exact condition w found
    have along : s.ledger.Along safeOpen labels := by
      cases input with
      | handDownReply ep retval written =>
          cases moves with
          | bulkInReply => trivial
          | intrReply =>
              refine ⟨?_, trivial⟩
              intro positive disconnecting
              obtain ⟨reaches, takes⟩ := condition positive disconnecting
              refine ⟨?_, reaches⟩
              have grown := intrReply_produced run takes
              have produced := congrArg (fun a : Ledger => a.produced.length) path.2
              simp only [act_produced, List.length_append, delivered] at produced
              rw [show t.ledger.produced.length = _ from grown] at produced
              split at produced
              · assumption
              · exact absurd produced (Nat.succ_ne_self _)
      | _ =>
          refine moves.along path safeOpen_free ?_ ?_ ?_ ?_ ?_ ?_ ?_ ?_
          · intro data w same found
            exact accepts data same w found
          · intro _ _ _ _ _
            trivial
          · intro _ _ _ _ _
            trivial
          · intro data _ _ same opcode
            exact absurd ⟨data, same, opcode⟩ reset
          · intro data _ same opcode
            exact absurd ⟨data, same, opcode⟩ reset
          · intro data w tail _ _ disconnected _
            refine ⟨trivial, Labelled.Along.always ?_ _⟩
            intro label member a
            obtain ⟨placed, rfl⟩ := disconnected label member
            trivial
          · intro _ _ _ _ _ _ _
            trivial
          · intro _ _ _ _ _ same
            cases same
    exact path.safe_invariant (Known mark) along known fun a label holds enabled safe =>
      holds.act enabled safe

/-- The host addresses a connection: an ACL packet, or a command that `fake_wiimote_mgr` looks
at. -/
inductive Uses : Input → UInt16 → Prop
  | packet {data : List UInt8} {handle : UInt16} : aclHandle data = some handle →
      Uses (.aclOut data) handle
  | command {data : List UInt8} {opcode handle : UInt16} : commandOpcode data = some opcode →
      (managedCommands.lookup opcode).isSome = true → commandHandle data = some handle →
      Uses (.hciCommand data) handle

def Findable (core : Core) (handle : UInt16) : Prop :=
  (getFakeWiimoteForHciConHandle core handle).isSome = true ∨
    (core.hci.table.hciVirtConHandleGetPhys handle).isSome = true

theorem HandleOwned.findable {core : Core} {handle : UInt16} (owned : HandleOwned core handle) :
    Findable core handle := by
  rcases owned with ⟨w, connected, same⟩ | ⟨e, live, same⟩
  · left
    refine List.find?_isSome.mpr ⟨w, ?_, by simp [connected, same]⟩
    match w with
    | 0 | 1 => simp
  · right
    obtain ⟨phys, found⟩ := ConHandleMap.hciVirtConHandleGetPhys_some live
    rw [← same, found]
    rfl

def Decided (s : World) (handle : UInt16) (answer : Bool) (t : World) : Prop :=
  answer = true ∨ answer = false ∧ t = s ∧ getFakeWiimoteForHciConHandle s.core handle = none

theorem answerForHandle_decided {s t : World} {handle : UInt16} {answer : M Unit} {b : Bool}
    (run : answerForHandle handle answer s = .ok (b, t)) : Decided s handle b t := by
  obtain ⟨_, _, got, run⟩ := bind_ok.mp run
  cases got
  rcases found : getFakeWiimoteForHciConHandle s.core handle with _ | w
  · simp only [found] at run
    cases run
    exact Or.inr ⟨rfl, rfl, found⟩
  · simp only [found] at run
    obtain ⟨_, _, _, run⟩ := bind_ok.mp run
    cases run
    exact Or.inl rfl

theorem disconnect_decided {s t : World} {handle : UInt16} {b : Bool}
    (run : fakeWiimoteMgrHandleHciCmdDisconnect handle s = .ok (b, t)) :
    Decided s handle b t := by
  obtain ⟨_, _, got, run⟩ := bind_ok.mp run
  cases got
  rcases found : getFakeWiimoteForHciConHandle s.core handle with _ | w
  · simp only [found] at run
    cases run
    exact Or.inr ⟨rfl, rfl, found⟩
  · simp only [found] at run
    obtain ⟨_, _, _, run⟩ := bind_ok.mp run
    obtain ⟨_, _, _, run⟩ := bind_ok.mp run
    obtain ⟨_, _, _, run⟩ := bind_ok.mp run
    cases run
    exact Or.inl rfl

theorem loaded_decided {s t : World} {payload : List UInt8} {word : UInt16}
    {rest : UInt16 → M Bool} {b : Bool} (loaded : load16 payload 0 = .ok word)
    (decided : rest word s = .ok (b, t) → Decided s (le16toh word) b t)
    (run : (do let word ← load16 payload 0; rest word : M Bool) s = .ok (b, t)) :
    Decided s (le16toh word) b t := by
  rw [loaded, bind_run (lift_run_ok word s)] at run
  exact decided run

theorem manager_decided {s t : World} {opcode word : UInt16} {payload : List UInt8} {b : Bool}
    (managed : (managedCommands.lookup opcode).isSome = true)
    (loaded : load16 payload 0 = .ok word)
    (run : fakeWiimoteMgrHandleHciCmdFromHost opcode payload s = .ok (b, t)) :
    Decided s (le16toh word) b t := by
  have unmanaged (other : UInt16) (absent : managedCommands.lookup other = none) :
      opcode ≠ other := by
    intro same
    rw [same, absent] at managed
    cases managed
  unfold fakeWiimoteMgrHandleHciCmdFromHost at run
  by_cases disconnect : opcode = hciCmdDisconnect
  · rw [if_pos disconnect] at run
    exact loaded_decided loaded disconnect_decided run
  rw [if_neg disconnect, if_neg (unmanaged hciCmdAcceptCon (by decide)),
    if_neg (unmanaged hciCmdRejectCon (by decide))] at run
  by_cases packetType : opcode = hciCmdChangeConPacketType
  · rw [if_pos packetType] at run
    exact loaded_decided loaded answerForHandle_decided run
  rw [if_neg packetType] at run
  by_cases auth : opcode = hciCmdAuthReq
  · rw [if_pos auth] at run
    exact loaded_decided loaded answerForHandle_decided run
  rw [if_neg auth, if_neg (unmanaged hciCmdRemoteNameReq (by decide))] at run
  by_cases features : opcode = hciCmdReadRemoteFeatures
  · rw [if_pos features] at run
    exact loaded_decided loaded answerForHandle_decided run
  rw [if_neg features] at run
  by_cases version : opcode = hciCmdReadRemoteVerInfo
  · rw [if_pos version] at run
    exact loaded_decided loaded answerForHandle_decided run
  rw [if_neg version] at run
  by_cases clock : opcode = hciCmdReadClockOffset
  · rw [if_pos clock] at run
    exact loaded_decided loaded answerForHandle_decided run
  rw [if_neg clock] at run
  by_cases sniff : opcode = hciCmdSniffMode
  · rw [if_pos sniff] at run
    exact loaded_decided loaded answerForHandle_decided run
  rw [if_neg sniff] at run
  by_cases policy : opcode = hciCmdWriteLinkPolicySettings
  · rw [if_pos policy] at run
    exact loaded_decided loaded answerForHandle_decided run
  rw [if_neg policy, if_neg (unmanaged hciCmdReset (by decide)),
    if_neg (unmanaged hciCmdReadStoredLinkKey (by decide))] at run
  by_cases timeout : opcode = hciCmdWriteLinkSupervisionTimeout
  · rw [if_pos timeout] at run
    exact loaded_decided loaded answerForHandle_decided run
  · simp [managedCommands, List.lookup_cons, disconnect, packetType, auth, features, version, clock,
      sniff, policy, timeout, beq_false_of_ne] at managed

theorem store16_error {buffer : List UInt8} {offset : Nat} {word : UInt16} {e : Fault}
    (run : store16 buffer offset word = .error e) : e ≠ physLookup := by
  rw [orFault_error run]
  exact outOfBounds_other

theorem except_bind_error {ε α β : Type} {x : Except ε α} {f : α → Except ε β} {e : ε} :
    (x >>= f) = .error e ↔ x = .error e ∨ ∃ a, x = .ok a ∧ f a = .error e := by
  cases x <;> simp [bind, Except.bind]

theorem translateAclOut_found {hci : HciState} {data : List UInt8} {handle : UInt16}
    (carried : aclHandle data = some handle)
    (found : (hci.table.hciVirtConHandleGetPhys handle).isSome = true) :
    translateAclOut hci data ≠ .error physLookup := by
  intro fault
  unfold aclHandle at carried
  split at carried
  · rename_i word loaded
    cases carried
    rcases except_bind_error.mp fault with failed | ⟨same, loads, fault⟩
    · rw [loaded] at failed
      cases failed
    · rw [loaded] at loads
      cases loads
      rcases except_bind_error.mp fault with failed | ⟨phys, -, fault⟩
      · rw [← Option.some_get found] at failed
        cases failed
      · exact store16_error fault rfl
  · cases carried

theorem translateToPhys_found {table : ConHandleMap} {data : List UInt8} {offset : Nat}
    {word : UInt16} (loaded : load16 data offset = .ok word)
    (found : (table.hciVirtConHandleGetPhys (le16toh word)).isSome = true) :
    translateToPhys table data offset ≠ .error physLookup := by
  intro fault
  rcases except_bind_error.mp fault with failed | ⟨same, loads, fault⟩
  · rw [loaded] at failed
    cases failed
  · rw [loaded] at loads
    cases loads
    rcases except_bind_error.mp fault with failed | ⟨phys, -, fault⟩
    · rw [← Option.some_get found] at failed
      cases failed
    · exact store16_error fault rfl

theorem map_error {α β : Type} {x : Except Fault α} {f : α → β} {e : Fault} :
    x.map f = .error e ↔ x = .error e := by
  cases x <;> simp [Except.map]

theorem aclOut_finds {s : World} {data : List UInt8} {handle : UInt16}
    (carried : aclHandle data = some handle) (findable : Findable s.core handle) :
    step s (.aclOut data) ≠ .error physLookup := by
  intro fault
  rw [step_aclOut, map_error] at fault
  have carries := carried
  unfold aclHandle at carries
  split at carries
  · rename_i word loaded
    cases carries
    unfold hciStateHandleAclDataOutRequestFromHost at fault
    rw [loaded, bind_run (lift_run_ok word s)] at fault
    rcases bind_error.mp fault with failed | ⟨handled, t, run, fault⟩
    · exact (steady_fakeWiimoteMgrHandleAclDataOutRequestFromHost _ _).raises _ _ failed rfl
    · obtain ⟨_, _, got, run⟩ := bind_ok.mp run
      cases got
      rcases found : getFakeWiimoteForHciConHandle s.core (hciConHandle (le16toh word)) with _ | w
      · simp only [found] at run
        cases run
        rcases findable with owned | mapped
        · rw [found] at owned
          cases owned
        · rw [if_neg Bool.false_ne_true, bind_run (get_run s)] at fault
          rcases bind_error.mp fault with failed | ⟨out, u, -, ended⟩
          · exact translateAclOut_found carried mapped (lift_error.mp failed)
          · cases ended
      · simp only [found] at run
        obtain ⟨_, _, _, run⟩ := bind_ok.mp run
        cases run
        cases fault
  · cases carries

theorem hciCommand_finds {s : World} {data : List UInt8} {opcode handle : UInt16}
    (code : commandOpcode data = some opcode)
    (managed : (managedCommands.lookup opcode).isSome = true)
    (carried : commandHandle data = some handle) (findable : Findable s.core handle) :
    step s (.hciCommand data) ≠ .error physLookup := by
  intro fault
  rw [step_hciCommand, map_error] at fault
  unfold commandOpcode at code
  split at code
  case h_2 => cases code
  case h_1 opcodeWord opcodeAt =>
  unfold commandHandle at carried
  split at carried
  case h_2 => cases carried
  case h_1 word loaded =>
  cases code
  cases carried
  have untranslated {other : UInt16} (absent : managedCommands.lookup other = none) :
      le16toh opcodeWord ≠ other := by
    intro same
    rw [same, absent] at managed
    cases managed
  unfold hciStateHandleHciCmdFromHost at fault
  rw [opcodeAt, bind_run (lift_run_ok opcodeWord s)] at fault
  rcases bind_error.mp fault with failed | ⟨handled, t, run, rest⟩
  · exact (steady_fakeWiimoteMgrHandleHciCmdFromHost _ _).raises _ _ failed rfl
  · rcases manager_decided managed loaded run with rfl | ⟨rfl, rfl, missing⟩
    · cases rest
    · rcases findable with owned | mapped
      · rw [missing] at owned
        cases owned
      · rw [if_neg Bool.false_ne_true, bind_run (get_run t)] at rest
        rcases bind_error.mp rest with failed | ⟨out, u, -, ended⟩
        · -- Every managed command is translated, so the lookup is the one of the table.
          have failed := lift_error.mp failed
          unfold snoopHciCmd at failed
          rw [if_neg (untranslated (by decide)), if_neg (untranslated (by decide)),
            if_neg (untranslated (by decide)), if_neg (untranslated (by decide)),
            if_neg (untranslated (by decide)), if_neg (untranslated (by decide))] at failed
          split at failed
          · rcases except_bind_error.mp failed with failed | ⟨changed, -, ended⟩
            · have offset : load16 data hciCmdHdrSize = .ok word := by
                rw [← loaded]
                simp [load16, Bytes.load16, List.getElem?_drop]
              exact translateToPhys_found offset mapped failed
            · cases ended
          · cases failed
        · cases ended

theorem uses_finds {s : World} {input : Input} {handle : UInt16} (uses : Uses input handle)
    (findable : Findable s.core handle) : step s input ≠ .error physLookup := by
  cases uses with
  | packet carried => exact aclOut_finds carried findable
  | command code managed carried => exact hciCommand_finds code managed carried findable

/-- The host has been told of the connection since the last reset command, and neither has it
been told of its end nor is that on its way. -/
def OpenForHost (s : World) (mark : Nat) (handle : UInt16) : Prop :=
  isOpen ((s.intr.acks.map Prod.snd).drop mark) handle = true ∧
    ∀ msg ∈ s.intr.readyQ, ¬Closes handle (s.intr.content msg)

theorem OpenForHost.produced {s : World} {mark : Nat} {handle : UInt16}
    (opened : OpenForHost s mark handle) (sound : s.intr.Sound) :
    isOpen (s.intr.produced.drop mark) handle = true := by
  obtain ⟨told, unclosed⟩ := opened
  rw [sound.produced, List.drop_append, isOpen, List.foldl_append]
  rw [isOpen] at told
  rw [told]
  apply foldl_opens_kept
  intro reply member
  obtain ⟨msg, queued, rfl⟩ := List.mem_map.mp (List.mem_of_mem_drop member)
  exact unclosed msg queued

/-- In a run that meets the conditions, and in which no Disconnection Complete event of a fake
Wiimote is lost, a handle that the host may use is found, unless its Disconnection Complete event
is still queued. -/
theorem host_handles_found (env : Environment) (s : World) (mark : Nat)
    (reached : Reachable (observed step sinceReset)
      (fun state input => Possible state.1 input ∧ openCondition state.1 input)
      (World.init env, 0) (s, mark))
    (told : hciEventDisconCompl ∉ s.lostEvents) (input : Input) (handle : UInt16)
    (uses : Uses input handle) (opened : OpenForHost s mark handle) :
    Findable s.core handle ∧ step s input ≠ .error (.assertion .conHandleGetPhys) := by
  have invariant : Run env openCondition s ∧ Known mark s.ledger := by
    refine reached.invariant
      (fun state => Run env openCondition state.1 ∧ Known state.2 state.1.ledger) ?_ ?_
    · refine ⟨.start, Nat.le_refl _, ?_⟩
      intro _ h opens
      cases opens
    · intro state after i holds allowed run
      obtain ⟨t, stepped, rfl⟩ := observed_ok.mp run
      exact ⟨Reachable.next holds.1 allowed stepped, known_step stepped allowed.2 holds.2⟩
  have sound := invariant.1.sound .intr
  have findable := (invariant.2.owned told handle (opened.produced sound)).findable
  exact ⟨findable, uses_finds uses findable⟩

instance decidableOpenCondition (s : World) : (input : Input) → Decidable (openCondition s input)
  | .hciCommand _ => inferInstanceAs (Decidable (∀ _ : WiimoteId, _ → _ ∧ _))
  | .handDownReply .intr _ _ =>
      inferInstanceAs (Decidable (_ < _ → _ ∧ _ → _ ≤ _ ∧ (_ ∨ _ ∧ _)))
  | .handDownReply .bulkIn _ _ | .aclOut _ | .bufferRequest _ _ | .timer _ => .isTrue trivial

instance decidableOpenForHost (s : World) (mark : Nat) (handle : UInt16) :
    Decidable (OpenForHost s mark handle) :=
  inferInstanceAs (Decidable (_ ∧ ∀ _ ∈ _, ¬_ = some (LifecycleEvent.disconnect handle)))

/-- The host accepts a fake Wiimote, reads its events and sends it an ACL packet. -/
theorem host_handles_found_acl :
    ∃ s t mark, OpenForHost s mark 0 ∧ Findable s.core 0 ∧ step s emptyL2capPacket = .ok t ∧
      step s emptyL2capPacket ≠ .error (.assertion .conHandleGetPhys) := by
  obtain ⟨⟨s, mark⟩, reached, check⟩ : ∃ state, Reachable (observed step sinceReset)
      (fun state input => Possible state.1 input ∧ openCondition state.1 input)
      (World.init .lenient, 0) state ∧
      (decide (hciEventDisconCompl ∉ state.1.lostEvents ∧ OpenForHost state.1 state.2 0) &&
        (step state.1 emptyL2capPacket).toOption.any fun _ => true) = true :=
    exists_of_execute ([writeScanEnable, .timer [.added (plainDevice 1)], acceptCon 0] ++
      List.replicate 4 (.bufferRequest .intr ⟨0, 0, 64⟩)) (by decide +kernel)
  obtain ⟨open_, passed⟩ := Bool.and_eq_true_iff.mp check
  obtain ⟨told, opened⟩ := of_decide_eq_true open_
  obtain ⟨t, run, -⟩ := exists_of_step passed
  obtain ⟨findable, found⟩ :=
    host_handles_found .lenient s mark reached told emptyL2capPacket 0 (.packet rfl) opened
  exact ⟨s, t, mark, opened, findable, run, found⟩

/-- The controller is unplugged. The Disconnection Complete event waits in the ReadyQ, and the
host, which has not read it, sends an ACL packet. -/
theorem queued_disconnection_reaches_lookup :
    ∃ s, Run .lenient anyInput s ∧ isOpen (s.intr.acks.map Prod.snd) 0 = true ∧
      Uses emptyL2capPacket 0 ∧
      step s emptyL2capPacket = .error (.assertion .conHandleGetPhys) := by
  obtain ⟨s, reached, check⟩ : ∃ s, Run .lenient anyInput s ∧
      decide (isOpen (s.intr.acks.map Prod.snd) 0 = true ∧
        faultOf (step s emptyL2capPacket) = some (.assertion .conHandleGetPhys)) = true :=
    exists_of_execute ([writeScanEnable, .timer [.added (plainDevice 1)], acceptCon 0] ++
      List.replicate 4 (.bufferRequest .intr ⟨0, 0, 64⟩) ++ [.timer [.removed 1]])
      (by decide +kernel)
  obtain ⟨opened, fault⟩ := of_decide_eq_true check
  exact ⟨s, reached, opened, .packet rfl, faultOf_eq_some.mp fault⟩

end Fakemote
