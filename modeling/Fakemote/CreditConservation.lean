import Fakemote.HostView
import Fakemote.VirtualHandles
import Mathlib.Algebra.Order.BigOperators.Group.List
import Mathlib.Algebra.GroupWithZero.Nat
import Mathlib.Algebra.Order.Group.Nat

/-! The ACL credits of the fake Wiimotes. Each packet that a fake Wiimote consumes is counted, and
the count is reported to the host and cleared by a Number Of Completed Packets event. The count is
cleared whether or not the event could be placed, and an entry of the event has 16 bits. -/

namespace Fakemote

open Bytes Program Ledger Transition Function

def packetsFor (handle : UInt16) (data : List UInt8) : Nat :=
  (((completedEntries data).filter fun e => e.1 = handle).map (·.2)).sum

/-- The packets consumed for each handle and those reported to the host, since the last Connection
Complete event for the handle. -/
structure Credits where
  consumed : UInt16 → Nat
  reported : UInt16 → Nat

namespace Credits

def start : Credits := ⟨fun _ => 0, fun _ => 0⟩

def before (credits : Credits) (core : Core) : Input → Credits
  | .aclOut data =>
      match owner core (aclHandle data) with
      | some w =>
          { credits with
            consumed := update credits.consumed (core.links w).hciConHandle
              (credits.consumed (core.links w).hciConHandle + 1) }
      | none => credits
  | _ => credits

def see (credits : Credits) (reply : Reply) : Credits :=
  match lifecycleEvent reply.data with
  | some (.complete _ handle) =>
      ⟨update credits.consumed handle 0, update credits.reported handle 0⟩
  | _ =>
      { credits with
        reported := fun handle => credits.reported handle + packetsFor handle reply.data }

def record (credits : Credits) (s : World) (input : Input) (t : World) : Credits :=
  (t.intr.produced.drop s.intr.produced.length).foldl see (credits.before s.core input)

end Credits

structure Balanced (core : Core) (credits : Credits) : Prop where
  balance : ∀ w, (core.links w).isConnected = true →
    credits.consumed (core.links w).hciConHandle =
      credits.reported (core.links w).hciConHandle +
        (core.links w).numCompletedAclDataPackets.toNat
  idle : ∀ w, (core.links w).active = true → (core.links w).basebandState ≠ .complete →
    (core.links w).numCompletedAclDataPackets = 0

structure Silent (handle : UInt16) (reply : Reply) : Prop where
  incomplete : ∀ bdaddr, lifecycleEvent reply.data ≠ some (.complete bdaddr handle)
  unreported : ∀ e ∈ completedEntries reply.data, e.1 ≠ handle

theorem see_silent (credits : Credits) {handle : UInt16} {reply : Reply}
    (silent : Silent handle reply) :
    (credits.see reply).consumed handle = credits.consumed handle ∧
      (credits.see reply).reported handle = credits.reported handle := by
  have none : packetsFor handle reply.data = 0 := by
    have empty : (completedEntries reply.data).filter (fun e => e.1 = handle) = [] := by
      apply List.filter_eq_nil_iff.mpr
      intro e member
      simpa using silent.unreported e member
    rw [packetsFor, empty]
    rfl
  unfold Credits.see
  split
  · rename_i bdaddr other completes
    have different : handle ≠ other := by
      intro same
      subst same
      exact silent.incomplete bdaddr completes
    exact ⟨update_of_ne different _ _, update_of_ne different _ _⟩
  · exact ⟨rfl, by simp only [none, Nat.add_zero]⟩

theorem foldl_silent {handle : UInt16} {replies : List Reply} :
    ∀ {credits : Credits}, (∀ reply ∈ replies, Silent handle reply) →
      (replies.foldl Credits.see credits).consumed handle = credits.consumed handle ∧
        (replies.foldl Credits.see credits).reported handle = credits.reported handle := by
  induction replies with
  | nil => exact fun _ => ⟨rfl, rfl⟩
  | cons reply replies ih =>
      intro credits silent
      have first := see_silent credits (silent reply List.mem_cons_self)
      have rest : (replies.foldl Credits.see (credits.see reply)).consumed handle =
            (credits.see reply).consumed handle ∧
          (replies.foldl Credits.see (credits.see reply)).reported handle =
            (credits.see reply).reported handle :=
        ih fun r member => silent r (List.mem_cons_of_mem _ member)
      exact ⟨rest.1.trans first.1, rest.2.trans first.2⟩

theorem silent_of_none {handle : UInt16} {reply : Reply}
    (event : ∀ bdaddr h, lifecycleEvent reply.data ≠ some (.complete bdaddr h))
    (entries : completedEntries reply.data = []) : Silent handle reply := by
  refine ⟨fun bdaddr => event bdaddr handle, ?_⟩
  intro e member
  rw [entries] at member
  cases member

theorem silent_disconnect {link : Link} {placed : Bool} {handle : UInt16} :
    ∀ reply ∈ (placedBy (disconnectAttempt link placed)).map asReply, Silent handle reply := by
  intro reply member
  obtain ⟨data, tried, rfl⟩ := List.mem_map.mp member
  unfold disconnectAttempt at tried
  split at tried
  · cases placed with
    | false => cases tried
    | true =>
        rw [List.mem_singleton.mp tried]
        exact silent_of_none (by simp [asReply]) (completedEntries_disconCompl _)
  · cases tried

/-- The controller's events are about the connections of the map. -/
theorem silent_reply {a : Ledger} {retval : Int} {buffer tracked : List UInt8} {hci : HciState}
    {placed : Bool} (counted : Counted a.core.hci) (distinct : Distinct a.core)
    (enabled : a.Enabled (.reply retval buffer tracked hci placed))
    (safe : safeDraw a.core (.reply retval buffer tracked hci placed)) {w : WiimoteId}
    (connected : (a.core.links w).isConnected = true) :
    Silent (a.core.links w).hciConHandle (Endpoint.handDownContent retval tracked) := by
  simp only [Enabled] at enabled
  unfold Endpoint.handDownContent
  split at enabled
  · rename_i positive
    rw [if_pos positive]
    have followed := handleEvent_tracked enabled
    constructor
    · intro bdaddr completes
      obtain ⟨event, status, drawn, -⟩ := followed.completed completes
      apply (safe positive ⟨event, status⟩).2 w (by simp) connected
      exact drawn.trans counted.next
    · intro e member same
      have mapped := followed.reported member
      rw [same] at mapped
      exact distinct.apart w connected mapped
  · rename_i failed
    rw [if_neg failed]
    exact silent_of_none (by simp [lifecycleEvent, load8, Bytes.load8, orFault]) rfl

theorem silent_delivered {a : Ledger} {label : Label} (counted : Counted a.core.hci)
    (distinct : Distinct a.core) (enabled : a.Enabled label) (safe : safeDraw a.core label)
    (quiet : label.quiet = true) {w : WiimoteId}
    (connected : (a.core.links w).isConnected = true) :
    ∀ reply ∈ a.delivered label, Silent (a.core.links w).hciConHandle reply := by
  cases label with
  | event code data placed =>
      cases placed with
      | false => intro reply member; cases member
      | true =>
          obtain ⟨rest, rfl⟩ := enabled.2 rfl
          intro reply member
          rw [List.mem_singleton.mp member]
          refine silent_of_none ?_ (completedEntries_event enabled.1)
          simp [asReply, lifecycleEvent_event enabled.1]
  | request v placed =>
      cases placed with
      | false => intro reply member; cases member
      | true =>
          intro reply member
          rw [List.mem_singleton.mp member]
          exact silent_of_none (by simp [asReply]) (completedEntries_conReq _)
  | disconnect v placed => exact silent_disconnect
  | remove d placed =>
      simp only [delivered, attempt]
      rcases (a.core.slots d).assignedWiimote with _ | v
      · intro reply member
        cases member
      · exact silent_disconnect
  | reply retval buffer tracked hci placed =>
      cases placed with
      | false => intro reply member; cases member
      | true =>
          intro reply member
          rw [List.mem_singleton.mp member]
          exact silent_reply counted distinct enabled safe connected
  | accept | consume | credit => cases quiet
  | _ => intro reply member; cases member

/-- Counts that the entries of an event can hold. -/
def SmallCounts (core : Core) : Prop :=
  ∀ w, (core.links w).isConnected = true →
    (core.links w).numCompletedAclDataPackets.toNat < 65536

theorem foldl_add_toNat (counts : List UInt32) :
    ∀ total : UInt32, total.toNat + (counts.map UInt32.toNat).sum < 4294967296 →
      (counts.foldl (· + ·) total).toNat = total.toNat + (counts.map UInt32.toNat).sum := by
  induction counts with
  | nil => simp
  | cons count counts ih =>
      intro total bound
      simp only [List.map_cons, List.sum_cons] at bound ⊢
      have added : (total + count).toNat = total.toNat + count.toNat := by
        rw [UInt32.toNat_add]
        exact Nat.mod_eq_of_lt (by omega)
      rw [List.foldl_cons, ih (total + count) (by omega), added]
      omega

theorem mem_connectedLinks {core : Core} {link : Link} :
    link ∈ connectedLinks core ↔ ∃ w, (core.links w).isConnected = true ∧ core.links w = link := by
  simp only [connectedLinks, List.mem_filter, List.mem_cons, List.not_mem_nil, or_false]
  constructor
  · rintro ⟨rfl | rfl, connected⟩
    · exact ⟨0, connected, rfl⟩
    · exact ⟨1, connected, rfl⟩
  · rintro ⟨w, connected, rfl⟩
    match w with
    | 0 => exact ⟨Or.inl rfl, connected⟩
    | 1 => exact ⟨Or.inr rfl, connected⟩

theorem nothing_due {core : Core} (small : SmallCounts core) (due : ¬ creditTotal core > 0)
    {w : WiimoteId} (connected : (core.links w).isConnected = true) :
    (core.links w).numCompletedAclDataPackets.toNat = 0 := by
  let counts := ((connectedLinks core).map (·.numCompletedAclDataPackets)).map UInt32.toNat
  have each : ∀ count ∈ counts, count ≤ 65535 := by
    intro count member
    simp only [counts, List.map_map, List.mem_map, Function.comp_apply] at member
    obtain ⟨link, listed, rfl⟩ := member
    obtain ⟨v, connection, rfl⟩ := mem_connectedLinks.mp listed
    exact Nat.le_of_lt_succ (small v connection)
  have few : counts.length ≤ 2 := by
    simpa [counts] using connectedLinks_length core
  have bound : counts.sum ≤ 2 * 65535 := by
    calc
      counts.sum ≤ counts.length * 65535 := by
        simpa using List.sum_le_card_nsmul counts 65535 each
      _ ≤ 2 * 65535 := Nat.mul_le_mul_right _ few
  have total : (creditTotal core).toNat = counts.sum := by
    have room : (0 : UInt32).toNat + counts.sum < 4294967296 := by
      rw [UInt32.toNat_zero]
      omega
    rw [creditTotal, foldl_add_toNat _ 0 room, UInt32.toNat_zero, Nat.zero_add]
  have none : counts.sum = 0 := by
    rw [← total]
    exact Nat.eq_zero_of_not_pos due
  have member : (core.links w).numCompletedAclDataPackets.toNat ∈ counts := by
    simp only [counts, List.map_map]
    exact List.mem_map.mpr ⟨_, mem_connectedLinks.mpr ⟨w, connected, rfl⟩, rfl⟩
  exact List.sum_eq_zero_iff_forall_eq_nat.mp none _ member

theorem packetsFor_credits {core : Core} (small : SmallCounts core) (distinct : Distinct core)
    {w : WiimoteId} (connected : (core.links w).isConnected = true) :
    packetsFor (core.links w).hciConHandle
      (numComplPktsEvent ((connectedLinks core).map numComplPktsEntry)) =
      (core.links w).numCompletedAclDataPackets.toNat := by
  have few : ((connectedLinks core).map numComplPktsEntry).length ≤ 2 := by
    rw [List.length_map]
    exact connectedLinks_length core
  have exact_ (v : WiimoteId) (connection : (core.links v).isConnected = true) :
      (core.links v).numCompletedAclDataPackets.toUInt16.toNat =
        (core.links v).numCompletedAclDataPackets.toNat := by
    rw [UInt32.toNat_toUInt16]
    exact Nat.mod_eq_of_lt (small v connection)
  have apart {v : WiimoteId} (other : v ≠ w) (connection : (core.links v).isConnected = true) :
      (core.links v).hciConHandle ≠ (core.links w).hciConHandle := fun same =>
    other (distinct.fakes v w connection connected same)
  rw [packetsFor, completedEntries_numComplPkts few, connectedLinks]
  match w with
  | 0 =>
      by_cases second : (core.links 1).isConnected = true
      · simp [connected, second, numComplPktsEntry, apart (by decide) second, exact_ 0 connected]
      · simp [connected, second, numComplPktsEntry, exact_ 0 connected]
  | 1 =>
      by_cases first : (core.links 0).isConnected = true
      · simp [connected, first, numComplPktsEntry, apart (by decide) first, exact_ 1 connected]
      · simp [connected, first, numComplPktsEntry, exact_ 1 connected]

/-- The handle that is drawn for `w` is that of no other connected fake Wiimote, and `w` has no
count from an earlier connection. -/
def CountsClear (core : Core) (w : WiimoteId) : Prop :=
  ∀ v, (core.links v).isConnected = true →
    if v = w then (core.links v).numCompletedAclDataPackets = 0
    else (core.links v).hciConHandle ≠ nextHandle core.hci

def safeCredit (core : Core) : Label → Prop
  | .accept w => safeDraw core (.accept w) ∧ CountsClear core w
  | .credit _ => SmallCounts core
  | .consume _ => False
  | label => safeDraw core label

theorem safeCredit_draw {core : Core} {label : Label} (safe : safeCredit core label) :
    safeDraw core label := by
  cases label with
  | accept w => exact safe.1
  | consume w => exact safe.elim
  | credit placed => trivial
  | _ => exact safe

theorem idle_act {a : Ledger} (label : Label) {w : WiimoteId}
    (idle : (a.core.links w).active = true → (a.core.links w).basebandState ≠ .complete →
      (a.core.links w).numCompletedAclDataPackets = 0)
    (enabled : a.Enabled label) (active : ((a.act label).core.links w).active = true)
    (waiting : ((a.act label).core.links w).basebandState ≠ .complete) :
    ((a.act label).core.links w).numCompletedAclDataPackets = 0 := by
  rw [act_links] at active waiting ⊢
  cases label with
  | assign v d =>
      dsimp only [Label.relink] at active waiting ⊢
      split
      · rfl
      · rename_i other
        simp only [if_neg other] at active waiting
        exact idle active waiting
  | request v placed =>
      dsimp only [Label.relink] at active waiting ⊢
      split
      · rename_i same
        obtain ⟨rfl, -⟩ := same
        exact idle enabled.1 (by rw [enabled.2]; decide)
      · rename_i other
        simp only [if_neg other] at active waiting
        exact idle active waiting
  | accept v =>
      dsimp only [Label.relink] at active waiting ⊢
      split
      · rename_i same
        simp [same] at waiting
      · rename_i other
        simp only [if_neg other] at active waiting
        exact idle active waiting
  | disconnect v placed | forget v =>
      dsimp only [Label.relink] at active waiting ⊢
      split
      · rename_i same
        simp [same] at active
      · rename_i other
        simp only [if_neg other] at active waiting
        exact idle active waiting
  | remove d placed =>
      dsimp only [Label.relink] at active waiting ⊢
      split
      · rename_i same
        simp [same] at active
      · rename_i other
        simp only [if_neg other] at active waiting
        exact idle active waiting
  | consume v =>
      dsimp only [Label.relink] at active waiting ⊢
      split
      · rename_i same
        obtain ⟨-, complete⟩ := isConnected_iff.mp enabled
        simp only [same, if_true] at waiting
        exact absurd complete waiting
      · rename_i other
        simp only [if_neg other] at active waiting
        exact idle active waiting
  | credit placed =>
      dsimp only [Label.relink, resetCount] at active waiting ⊢
      split
      · rfl
      · rename_i unconnected
        simp only [if_neg unconnected] at active waiting
        exact idle active waiting
  | event | plug | tickSlots | snoop | reset | reply => exact idle active waiting

namespace Balanced

variable {a : Ledger} {credits : Credits}

theorem quiet {label : Label} (balanced : Balanced a.core credits) (counted : Counted a.core.hci)
    (distinct : Distinct a.core) (enabled : a.Enabled label) (safe : safeDraw a.core label)
    (quiet : label.quiet = true) :
    Balanced (a.act label).core ((a.delivered label).foldl Credits.see credits) where
  balance := by
    intro w connected
    have same := quiet_links quiet connected
    rw [same] at connected ⊢
    have silent := silent_delivered counted distinct enabled safe quiet connected
    rw [(foldl_silent silent).1, (foldl_silent silent).2]
    exact balanced.balance w connected
  idle := fun w => idle_act _ (balanced.idle w) enabled

theorem accept (balanced : Balanced a.core credits) (counted : Counted a.core.hci) (w : WiimoteId)
    (clear : CountsClear a.core w) :
    Balanced (a.act (.accept w)).core
      ((a.delivered (.accept w)).foldl Credits.see credits) where
  balance := by
    have handle : (hciConHandleVirtAlloc a.core.hci).1 = nextHandle a.core.hci := counted.next
    intro v connected
    simp only [delivered, attempt, placedBy, List.map_cons, List.map_nil, List.foldl_cons,
      List.foldl_nil, Credits.see, asReply, lifecycleEvent_conCompl]
    rw [act_links] at connected ⊢
    simp only [Label.relink, handle] at connected ⊢
    by_cases same : v = w
    · subst same
      simp only [if_true, update_self, Nat.zero_add] at connected ⊢
      have active := (isConnected_iff.mp connected).1
      have none : (a.core.links v).numCompletedAclDataPackets = 0 := by
        by_cases complete : (a.core.links v).basebandState = .complete
        · have still := clear v (isConnected_iff.mpr ⟨active, complete⟩)
          rwa [if_pos rfl] at still
        · exact balanced.idle v active complete
      rw [none]
      rfl
    · simp only [if_neg same] at connected ⊢
      have different := clear v connected
      rw [if_neg same] at different
      rw [update_of_ne different, update_of_ne different]
      exact balanced.balance v connected
  idle := fun v => idle_act (.accept w) (balanced.idle v) trivial

theorem credit (balanced : Balanced a.core credits) (distinct : Distinct a.core) {placed : Bool}
    (small : SmallCounts a.core)
    (sent : hciEventNumComplPkts ∉ lostBy (a.attempt (.credit placed))) :
    Balanced (a.act (.credit placed)).core
      ((a.delivered (.credit placed)).foldl Credits.see credits) where
  balance := by
    intro w connected
    rw [act_links] at connected ⊢
    simp only [Label.relink, resetCount_isConnected, resetCount_hciConHandle] at connected ⊢
    have cleared : (resetCount (a.core.links w)).numCompletedAclDataPackets = 0 := by
      rw [resetCount, if_pos connected]
    have before := balanced.balance w connected
    rw [cleared, UInt32.toNat_zero, Nat.add_zero]
    simp only [attempt] at sent
    simp only [delivered, attempt]
    by_cases due : creditTotal a.core > 0
    · rw [if_pos due] at sent ⊢
      cases placed with
      | false => exact absurd (List.mem_singleton_self _) sent
      | true =>
          simp only [placedBy, List.map_cons, List.map_nil, List.foldl_cons, List.foldl_nil,
            Credits.see, asReply, lifecycleEvent_numComplPkts]
          rw [packetsFor_credits small distinct connected]
          exact before
    · rw [if_neg due]
      rw [nothing_due small due connected] at before
      exact before
  idle := fun w => idle_act (.credit placed) (balanced.idle w) trivial

theorem consume (balanced : Balanced a.core credits) (distinct : Distinct a.core) {w : WiimoteId}
    {data : List UInt8} (found : owner a.core (aclHandle data) = some w)
    (room : (a.core.links w).numCompletedAclDataPackets.toNat + 1 < 4294967296) :
    Balanced (a.act (.consume w)).core (credits.before a.core (.aclOut data)) where
  balance := by
    intro v connected
    simp only [Credits.before, found]
    rw [act_links] at connected ⊢
    simp only [Label.relink] at connected ⊢
    by_cases same : v = w
    · subst same
      have before := balanced.balance v (owner_isConnected found)
      have counts : ((a.core.links v).numCompletedAclDataPackets + 1).toNat =
          (a.core.links v).numCompletedAclDataPackets.toNat + 1 := by
        rw [UInt32.toNat_add]
        exact Nat.mod_eq_of_lt room
      simp only [if_true, update_self]
      rw [counts, before]
      exact Nat.add_assoc _ _ _
    · simp only [if_neg same] at connected ⊢
      have different : (a.core.links v).hciConHandle ≠ (a.core.links w).hciConHandle :=
        fun shared => same (distinct.fakes v w connected (owner_isConnected found) shared)
      rw [update_of_ne different]
      exact balanced.balance v connected
  idle := fun v => idle_act (.consume w) (balanced.idle v) (owner_isConnected found)

end Balanced

def creditsAt (credits : Credits) (base : Nat) (a : Ledger) : Credits :=
  (a.produced.drop base).foldl Credits.see credits

theorem creditsAt_act {credits : Credits} {base : Nat} {a : Ledger} (label : Label)
    (past : base ≤ a.produced.length) :
    creditsAt credits base (a.act label) =
      (a.delivered label).foldl Credits.see (creditsAt credits base a) := by
  unfold creditsAt
  rw [act_produced, List.drop_append_of_le_length past, List.foldl_append]

structure Account (credits : Credits) (base : Nat) (a : Ledger) : Prop where
  past : base ≤ a.produced.length
  counted : Counted a.core.hci
  distinct : Distinct a.core
  balanced : hciEventNumComplPkts ∉ a.lost → Balanced a.core (creditsAt credits base a)

theorem Account.act {credits : Credits} {base : Nat} {a : Ledger} {label : Label}
    (account : Account credits base a) (enabled : a.Enabled label)
    (safe : safeCredit a.core label) : Account credits base (a.act label) where
  past := by
    rw [act_produced, List.length_append]
    exact Nat.le_add_right_of_le account.past
  counted := account.counted.act enabled
  distinct := account.distinct.act account.counted enabled (safeCredit_draw safe)
  balanced := by
    intro sent
    rw [(act_events a label).2, List.mem_append, not_or] at sent
    have balanced := account.balanced sent.1
    rw [creditsAt_act label account.past]
    cases label with
    | accept w => exact balanced.accept account.counted w safe.2
    | credit placed => exact balanced.credit account.distinct safe sent.2
    | consume w => exact safe.elim
    | _ => exact balanced.quiet account.counted account.distinct enabled (safeCredit_draw safe) rfl

/-- Handles are drawn when they are not in use, and with no count left; the counts fit in what
holds them. -/
def creditCondition (s : World) (input : Input) : Prop :=
  drawCondition s input ∧
    match input with
    | .hciCommand data => ∀ w, addressed hciCmdAcceptCon s.core data = some w → CountsClear s.core w
    | .aclOut data => ∀ w, owner s.core (aclHandle data) = some w →
        (s.core.links w).numCompletedAclDataPackets.toNat + 1 < 4294967296
    | .timer _ => SmallCounts s.core
    | _ => True

theorem SmallCounts.timer {a b : Ledger} {labels : List Label} (small : SmallCounts a.core)
    (timed : ∀ label ∈ labels, TimerMove label) (path : a.Path labels b) : SmallCounts b.core := by
  have along : a.Along (fun _ label => TimerMove label) labels :=
    Labelled.Along.always (fun label member _ => timed label member) a
  refine path.safe_invariant (fun c => SmallCounts c.core) along small ?_
  intro c label holds _ move w connected
  have quiet : label.quiet = true := by
    cases move <;> rfl
  have same := quiet_links quiet connected
  rw [same] at connected ⊢
  exact holds w connected

theorem safeCredit_free {core : Core} {label : Label} (free : label.guarded = false) :
    safeCredit core label := by
  cases label with
  | accept | credit | consume | reply => cases free
  | _ => trivial

theorem credit_along {s : World} {input : Input} {labels : List Label} {b : Ledger}
    (safe : creditCondition s input) (moves : Moves s input labels)
    (path : s.ledger.Path labels b) (host : ∀ data, input ≠ .aclOut data) :
    s.ledger.Along safeCredit labels := by
  apply moves.along path
  · exact fun core label free => safeCredit_free free
  · intro data w same found
    subst same
    exact ⟨safe.1 w found, safe.2 w found⟩
  · intros
    trivial
  · intros
    trivial
  · intros
    trivial
  · intros
    trivial
  · intro data w disconnects same
    exact absurd same (host data)
  · intro events moves placed middle same timed before
    subst same
    exact SmallCounts.timer safe.2 timed before
  · intro retval written tracked hci placed same enabled
    subst same
    exact safe.1

theorem before_host {credits : Credits} {core : Core} {input : Input}
    (host : ∀ data, input ≠ .aclOut data) : credits.before core input = credits := by
  cases input with
  | aclOut data => exact absurd rfl (host data)
  | _ => rfl

theorem Account.start {s : World} {credits : Credits} (counted : Counted s.core.hci)
    (distinct : Distinct s.core)
    (balanced : hciEventNumComplPkts ∉ s.lostEvents → Balanced s.core credits) :
    Account credits s.intr.produced.length s.ledger := by
  refine ⟨Nat.le_refl _, counted, distinct, ?_⟩
  intro sent
  have none : creditsAt credits s.intr.produced.length s.ledger = credits := by
    simp [creditsAt, World.ledger]
  rw [none]
  exact balanced sent

theorem balanced_step {s t : World} {input : Input} {credits : Credits}
    (run : step s input = .ok t) (safe : creditCondition s input)
    (counted : Counted s.core.hci) (distinct : Distinct s.core)
    (balanced : hciEventNumComplPkts ∉ s.lostEvents → Balanced s.core credits)
    (sent : hciEventNumComplPkts ∉ t.lostEvents) :
    Balanced t.core (credits.record s input t) := by
  obtain ⟨labels, moves, path⟩ := step_moves run
  have account : Account (credits.before s.core input) s.intr.produced.length t.ledger := by
    by_cases host : ∃ data, input = .aclOut data
    · obtain ⟨data, rfl⟩ := host
      cases moves with
      | consume found disconnects length =>
          rename_i w labels
          -- The packet is counted first; what follows are disconnections.
          have consumed : Account (credits.before s.core (.aclOut data))
              s.intr.produced.length (s.ledger.act (.consume w)) := by
            refine ⟨Nat.le_refl _, counted.act path.1, distinct.act counted path.1 trivial, ?_⟩
            intro sent
            have none : creditsAt (credits.before s.core (.aclOut data))
                s.intr.produced.length (s.ledger.act (.consume w)) =
                  credits.before s.core (.aclOut data) := by
              simp [creditsAt, World.ledger, act]
            rw [none]
            exact (balanced sent).consume distinct found (safe.2 _ found)
          refine path.2.safe_invariant _ (Labelled.Along.always ?_ _) consumed
            fun a label holds enabled safe => holds.act enabled safe
          intro label member a
          obtain ⟨placed, same⟩ := disconnects label member
          subst same
          exact (trivial : safeCredit a.core (.disconnect w placed))
      | translate found =>
          have still : credits.before s.core (.aclOut data) = credits := by
            simp [Credits.before, show owner s.core (aclHandle data) = none from found]
          rw [still, show t.ledger = s.ledger from path]
          exact .start counted distinct balanced
    · have other : ∀ data, input ≠ .aclOut data := fun data same => host ⟨data, same⟩
      rw [before_host other]
      exact path.safe_invariant _ (credit_along safe moves path other)
        (.start counted distinct balanced) fun a label holds enabled safe => holds.act enabled safe
  exact account.balanced sent

theorem start_balanced (env : Environment) : Balanced (World.init env).core .start where
  balance := by
    intro w connected
    cases connected
  idle := by
    intro w active
    cases active

/-- In every run in which handles are drawn when they are not in use, the counts fit in what holds
them and no Number Of Completed Packets event is lost, the packets consumed for the handle of a
fake Wiimote are those reported to the host and those it has still counted. -/
theorem acl_credits_conserved (env : Environment) (s : World) (credits : Credits)
    (reached : Reachable (observed step Credits.record)
      (fun state input => Possible state.1 input ∧ creditCondition state.1 input)
      (World.init env, .start) (s, credits))
    (sent : hciEventNumComplPkts ∉ s.lostEvents) :
    ∀ handle w, getFakeWiimoteForHciConHandle s.core handle = some w →
      credits.consumed handle =
        credits.reported handle + (s.core.links w).numCompletedAclDataPackets.toNat := by
  have invariant : Run env creditCondition s ∧
      (hciEventNumComplPkts ∉ s.lostEvents → Balanced s.core credits) := by
    refine reached.invariant
      (fun state => Run env creditCondition state.1 ∧
        (hciEventNumComplPkts ∉ state.1.lostEvents → Balanced state.1.core state.2)) ?_ ?_
    · exact ⟨Reachable.start, fun _ => start_balanced env⟩
    · rintro ⟨before, seen⟩ after input ⟨run, balanced⟩ allowed observing
      obtain ⟨t, stepped, rfl⟩ := observed_ok.mp observing
      have distinct : Run env drawCondition before :=
        Reachable.weaken run fun _ _ ok => ⟨ok.1, ok.2.1⟩
      exact ⟨.next run allowed stepped, fun sent =>
        balanced_step stepped allowed.2 distinct.distinct.1 distinct.distinct.2 balanced sent⟩
  intro handle w found
  obtain ⟨connected, owns⟩ := getFakeWiimote_connected found
  rw [← owns]
  exact (invariant.2 sent).balance w connected

instance decidableCountsClear (core : Core) (w : WiimoteId) : Decidable (CountsClear core w) :=
  inferInstanceAs (Decidable (∀ v : WiimoteId, _ → if v = w then _ = _ else _ ≠ _))

instance decidableSmallCounts (core : Core) : Decidable (SmallCounts core) :=
  inferInstanceAs (Decidable (∀ _ : WiimoteId, _ → _ < 65536))

instance decidableCreditCondition (s : World) :
    (input : Input) → Decidable (creditCondition s input)
  | .hciCommand data =>
      inferInstanceAs (Decidable (drawCondition s (.hciCommand data) ∧
        ∀ w : WiimoteId, _ → CountsClear s.core w))
  | .aclOut data =>
      inferInstanceAs (Decidable (drawCondition s (.aclOut data) ∧
        ∀ _ : WiimoteId, _ → _ + 1 < 4294967296))
  | .timer events =>
      inferInstanceAs (Decidable (drawCondition s (.timer events) ∧ SmallCounts s.core))
  | .bufferRequest ep msg =>
      inferInstanceAs (Decidable (drawCondition s (.bufferRequest ep msg) ∧ True))
  | .handDownReply ep retval written =>
      inferInstanceAs (Decidable (drawCondition s (.handDownReply ep retval written) ∧ True))

/-- Two packets are consumed, one before and one after the timer. -/
theorem acl_credits_conserved_two_packets :
    ∃ s credits, Reachable (observed step Credits.record)
        (fun state input => Possible state.1 input ∧ creditCondition state.1 input)
        (World.init .lenient, .start) (s, credits) ∧
      getFakeWiimoteForHciConHandle s.core 0 = some 0 ∧ credits.consumed 0 = 2 ∧
      2 = credits.reported 0 + (s.core.links 0).numCompletedAclDataPackets.toNat := by
  obtain ⟨⟨s, credits⟩, reached, check⟩ : ∃ state, Reachable (observed step Credits.record)
      (fun state input => Possible state.1 input ∧ creditCondition state.1 input)
      (World.init .lenient, .start) state ∧
      decide (hciEventNumComplPkts ∉ state.1.lostEvents ∧
        getFakeWiimoteForHciConHandle state.1.core 0 = some 0 ∧ state.2.consumed 0 = 2) = true :=
    exists_of_execute [writeScanEnable, .timer [.added (plainDevice 1)], acceptCon 0,
      emptyL2capPacket, .timer [], emptyL2capPacket] (by decide +kernel)
  obtain ⟨sent, found, consumed⟩ := of_decide_eq_true check
  have conserved := acl_credits_conserved .lenient s credits reached sent 0 0 found
  exact ⟨s, credits, reached, found, consumed, consumed.symm.trans conserved⟩

/-- The ReadyQ is full when the timer reports a packet. Its credit is gone. -/
theorem unsent_event_loses_credit :
    ∃ s credits, Reachable (observed step Credits.record)
        (fun state input => Possible state.1 input ∧ creditCondition state.1 input)
        (World.init .lenient, .start) (s, credits) ∧
      getFakeWiimoteForHciConHandle s.core 0 = some 0 ∧ credits.consumed 0 = 1 ∧
      credits.reported 0 = 0 ∧ (s.core.links 0).numCompletedAclDataPackets = 0 := by
  obtain ⟨⟨s, credits⟩, reached, check⟩ : ∃ state, Reachable (observed step Credits.record)
      (fun state input => Possible state.1 input ∧ creditCondition state.1 input)
      (World.init .lenient, .start) state ∧
      decide (getFakeWiimoteForHciConHandle state.1.core 0 = some 0 ∧ state.2.consumed 0 = 1 ∧
        state.2.reported 0 = 0 ∧
        (state.1.core.links 0).numCompletedAclDataPackets = 0) = true :=
    exists_of_execute ([writeScanEnable, .timer [.added (plainDevice 1)], acceptCon 0,
      emptyL2capPacket] ++ List.replicate 4 readAllStoredLinkKeys ++ [.timer []])
      (by decide +kernel)
  exact ⟨s, credits, reached, of_decide_eq_true check⟩

end Fakemote
