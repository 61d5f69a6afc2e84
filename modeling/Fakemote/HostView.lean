import Fakemote.ControllerEvents
import Fakemote.Runs

/-! What the host reads in the events about connections, and which moves of the ledger place
them. -/

namespace Fakemote

open Bytes Program Ledger

inductive LifecycleEvent
  | request (bdaddr : BdAddr)
  | complete (bdaddr : BdAddr) (handle : UInt16)
  | disconnect (handle : UInt16)
  deriving DecidableEq

/-- Connection Request, and Connection and Disconnection Complete with status 0. -/
def lifecycleEvent (data : List UInt8) : Option LifecycleEvent :=
  match load8 data 0 with
  | .error _ => none
  | .ok code =>
      if code = hciEventConReq then
        match loadBdaddr data hciEventHdrSize with
        | .ok bdaddr => some (.request bdaddr)
        | .error _ => none
      else if code = hciEventConCompl then
        match load8 data hciEventHdrSize, load16 data (hciEventHdrSize + 1),
            loadBdaddr data (hciEventHdrSize + 3) with
        | .ok status, .ok handle, .ok bdaddr =>
            if status = 0 then some (.complete bdaddr (le16toh handle)) else none
        | _, _, _ => none
      else if code = hciEventDisconCompl then
        match load8 data hciEventHdrSize, load16 data (hciEventHdrSize + 1) with
        | .ok status, .ok handle => if status = 0 then some (.disconnect (le16toh handle)) else none
        | _, _ => none
      else none

theorem loadBdaddr_append (front back : List UInt8) (bdaddr : BdAddr) :
    loadBdaddr (front ++ (bdaddr.val ++ back)) front.length = .ok bdaddr := by
  obtain ⟨bytes, size⟩ := bdaddr
  match bytes, size with
  | [a, b, c, d, e, f], _ => simp [loadBdaddr]

theorem load16_append (front back : List UInt8) (word : UInt16) :
    load16 (front ++ (bytes16 word ++ back)) front.length = .ok word := by
  simp [load16, Bytes.load16, bytes16, orFault]

@[simp] theorem lifecycleEvent_conReq (bdaddr : BdAddr) :
    lifecycleEvent (conReqEvent bdaddr) = some (.request bdaddr) := by
  have found : loadBdaddr (conReqEvent bdaddr) hciEventHdrSize = .ok bdaddr :=
    loadBdaddr_append [hciEventConReq, 10] _ bdaddr
  have code : load8 (conReqEvent bdaddr) 0 = .ok hciEventConReq := rfl
  simp only [lifecycleEvent, code, found, if_true]

theorem lifecycleEvent_complete {data : List UInt8} {bdaddr : BdAddr} {handle : UInt16} :
    lifecycleEvent data = some (.complete bdaddr handle) ↔
      load8 data 0 = .ok hciEventConCompl ∧ load8 data hciEventHdrSize = .ok 0 ∧
        load16 data (hciEventHdrSize + 1) = .ok (htole16 handle) ∧
        loadBdaddr data (hciEventHdrSize + 3) = .ok bdaddr := by
  constructor
  · intro found
    unfold lifecycleEvent at found
    split at found
    · cases found
    · rename_i code event
      split at found
      · split at found <;> cases found
      · split at found
        · rename_i complete
          split at found
          · rename_i status word address statusAt wordAt addressAt
            split at found
            · rename_i success
              cases found
              rw [event, complete, statusAt, success, wordAt, addressAt, htole16_le16toh]
              exact ⟨rfl, rfl, rfl, rfl⟩
            · cases found
          · cases found
        · split at found
          · split at found
            · split at found <;> cases found
            · cases found
          · cases found
  · rintro ⟨event, status, word, address⟩
    have other : hciEventConCompl ≠ hciEventConReq := by decide
    simp only [lifecycleEvent, event, status, word, address, if_neg other, if_true,
      le16toh_htole16]

theorem lifecycleEvent_disconnect {data : List UInt8} {handle : UInt16} :
    lifecycleEvent data = some (.disconnect handle) ↔
      load8 data 0 = .ok hciEventDisconCompl ∧ load8 data hciEventHdrSize = .ok 0 ∧
        load16 data (hciEventHdrSize + 1) = .ok (htole16 handle) := by
  constructor
  · intro found
    unfold lifecycleEvent at found
    split at found
    · cases found
    · rename_i code event
      split at found
      · split at found <;> cases found
      · split at found
        · split at found
          · split at found <;> cases found
          · cases found
        · split at found
          · rename_i disconnect
            split at found
            · rename_i status word statusAt wordAt
              split at found
              · rename_i success
                cases found
                rw [event, disconnect, statusAt, success, wordAt, htole16_le16toh]
                exact ⟨rfl, rfl, rfl⟩
              · cases found
            · cases found
          · cases found
  · rintro ⟨event, status, word⟩
    have request : hciEventDisconCompl ≠ hciEventConReq := by decide
    have complete : hciEventDisconCompl ≠ hciEventConCompl := by decide
    simp only [lifecycleEvent, event, status, word, if_neg request, if_neg complete, if_true,
      le16toh_htole16]

@[simp] theorem lifecycleEvent_conCompl (bdaddr : BdAddr) (handle : UInt16) :
    lifecycleEvent (conComplEvent bdaddr handle) = some (.complete bdaddr handle) := by
  refine lifecycleEvent_complete.mpr ⟨rfl, rfl, ?_, ?_⟩
  · have bytes : conComplEvent bdaddr handle = [hciEventConCompl, 11, 0] ++
        (bytes16 (htole16 handle) ++ (bdaddr.val ++ [hciLinkAcl, hciEncryptionModeNone])) := by
      simp [conComplEvent]
    rw [bytes]
    exact load16_append _ _ _
  · have bytes : conComplEvent bdaddr handle = ([hciEventConCompl, 11, 0] ++
        bytes16 (htole16 handle)) ++ (bdaddr.val ++ [hciLinkAcl, hciEncryptionModeNone]) := by
      simp [conComplEvent]
    rw [bytes]
    exact loadBdaddr_append _ _ bdaddr

@[simp] theorem lifecycleEvent_disconCompl (handle : UInt16) :
    lifecycleEvent (disconComplEvent handle) = some (.disconnect handle) := by
  refine lifecycleEvent_disconnect.mpr ⟨rfl, rfl, ?_⟩
  have bytes : disconComplEvent handle =
      [hciEventDisconCompl, 4, 0] ++ (bytes16 (htole16 handle) ++ [0x13]) := by
    simp [disconComplEvent]
  rw [bytes]
  exact load16_append _ _ _

theorem lifecycleEvent_other {code : UInt8} {rest : List UInt8}
    (request : code ≠ hciEventConReq) (complete : code ≠ hciEventConCompl)
    (disconnect : code ≠ hciEventDisconCompl) : lifecycleEvent (code :: rest) = none := by
  have first : load8 (code :: rest) 0 = .ok code := rfl
  simp only [lifecycleEvent, first, if_neg request, if_neg complete, if_neg disconnect]

@[simp] theorem lifecycleEvent_numComplPkts (entries : List (UInt16 × UInt16)) :
    lifecycleEvent (numComplPktsEvent entries) = none :=
  lifecycleEvent_other (by decide) (by decide) (by decide)

theorem lifecycleEvent_event {code : UInt8} {rest : List UInt8} (other : code ∉ ledgerCodes) :
    lifecycleEvent (code :: rest) = none := by
  simp only [ledgerCodes, List.mem_cons, List.not_mem_nil, or_false, not_or] at other
  exact lifecycleEvent_other other.1 other.2.1 other.2.2.1

def completedEntries (data : List UInt8) : List (UInt16 × Nat) :=
  match load8 data 0, load8 data hciEventHdrSize with
  | .ok code, .ok count =>
      if code = hciEventNumComplPkts then
        (List.range count.toNat).filterMap fun i =>
          match load16 data (hciEventHdrSize + 1 + 4 * i),
              load16 data (hciEventHdrSize + 3 + 4 * i) with
          | .ok handle, .ok packets => some (le16toh handle, (le16toh packets).toNat)
          | _, _ => none
      else []
  | _, _ => []

theorem completedEntries_numComplPkts {entries : List (UInt16 × UInt16)}
    (few : entries.length ≤ 2) :
    completedEntries (numComplPktsEvent entries) = entries.map fun e => (e.1, e.2.toNat) := by
  match entries, few with
  | [], _ => rfl
  | [first], _ =>
      simp [completedEntries, numComplPktsEvent, load8, load16, Bytes.load8, Bytes.load16,
        bytes16, orFault, hciEventHdrSize, List.range_succ]
  | [first, second], _ =>
      simp [completedEntries, numComplPktsEvent, load8, load16, Bytes.load8, Bytes.load16,
        bytes16, orFault, hciEventHdrSize, List.range_succ]

theorem completedEntries_other {code : UInt8} {rest : List UInt8}
    (other : code ≠ hciEventNumComplPkts) : completedEntries (code :: rest) = [] := by
  have first : load8 (code :: rest) 0 = .ok code := rfl
  unfold completedEntries
  rw [first]
  split
  · rename_i same _
    cases same
    rw [if_neg other]
  · rfl

@[simp] theorem completedEntries_conReq (bdaddr : BdAddr) :
    completedEntries (conReqEvent bdaddr) = [] :=
  completedEntries_other (by decide)

@[simp] theorem completedEntries_disconCompl (handle : UInt16) :
    completedEntries (disconComplEvent handle) = [] :=
  completedEntries_other (by decide)

theorem completedEntries_event {code : UInt8} {rest : List UInt8} (other : code ∉ ledgerCodes) :
    completedEntries (code :: rest) = [] := by
  simp only [ledgerCodes, List.mem_cons, List.not_mem_nil, or_false, not_or] at other
  exact completedEntries_other other.2.2.2

theorem mem_completedEntries {data : List UInt8} {e : UInt16 × Nat}
    (member : e ∈ completedEntries data) :
    load8 data 0 = .ok hciEventNumComplPkts ∧ ∃ count : UInt8, ∃ i < count.toNat,
      load8 data hciEventHdrSize = .ok count ∧
        load16 data (hciEventHdrSize + 1 + 4 * i) = .ok (htole16 e.1) := by
  unfold completedEntries at member
  split at member
  · rename_i code count event countAt
    split at member
    · rename_i same
      obtain ⟨i, bound, entry⟩ := List.mem_filterMap.mp member
      split at entry
      · rename_i handle packets handleAt packetsAt
        cases entry
        refine ⟨event.trans (congrArg _ same), count, i, List.mem_range.mp bound, countAt, ?_⟩
        rw [handleAt, htole16_le16toh]
      · cases entry
    · cases member
  · cases member

theorem load8_of_take {data : List UInt8} {count offset : Nat} {byte : UInt8}
    (loaded : load8 (data.take count) offset = .ok byte) : load8 data offset = .ok byte := by
  have found := load8_ok.mp loaded
  rw [show (data.take count)[offset]? = _ from load8_take data count offset] at found
  split at found
  · exact load8_ok.mpr found
  · cases found

theorem load16_of_take {data : List UInt8} {count offset : Nat} {word : UInt16}
    (loaded : load16 (data.take count) offset = .ok word) : load16 data offset = .ok word := by
  have found := load16_ok.mp loaded
  rw [load16_take] at found
  split at found
  · exact load16_ok.mpr found
  · cases found

theorem Tracked.completed {hci after : HciState} {data out : List UInt8} {length : Nat}
    {bdaddr : BdAddr} {handle : UInt16} (tracked : Tracked hci data after out)
    (found : lifecycleEvent (out.take length) = some (.complete bdaddr handle)) :
    load8 data 0 = .ok hciEventConCompl ∧ load8 data hciEventHdrSize = .ok 0 ∧
      handle = (hciConHandleVirtAlloc hci).1 ∧ ∃ e ∈ after.table.live, e.virt = handle := by
  obtain ⟨code, success, word, -⟩ := lifecycleEvent_complete.mp found
  have event := load8_of_take code
  have status := load8_of_take success
  have wordAt := load16_of_take word
  rw [tracked.code] at event
  have differs {code : UInt8} (other : load8 data 0 = .ok code) : code = hciEventConCompl :=
    Except.ok.inj (other.symm.trans event)
  cases tracked with
  | connected _ statusAt physAt mapped stored =>
      have same := Except.ok.inj (wordAt.symm.trans (load16_store16 stored))
      have drawn : handle = (hciConHandleVirtAlloc hci).1 := by
        rw [← le16toh_htole16 handle, same, le16toh_htole16]
      have entered := (ConHandleMap.hciVirtConHandleMap_live mapped).mem_iff.mpr
        List.mem_cons_self
      exact ⟨event, statusAt, drawn, _, entered, drawn.symm⟩
  | disconnected other => exact absurd (differs other) (by decide)
  | failed _ _ statusAt failure => exact absurd (Except.ok.inj (statusAt.symm.trans status)) failure
  | commandCompl other => exact absurd (differs other) (by decide)
  | numComplPkts other => exact absurd (differs other) (by decide)
  | translated other listed =>
      rw [differs other, show translatedEvents.lookup hciEventConCompl = none by decide] at listed
      cases listed
  | passed other different => exact absurd (differs other) different

theorem Tracked.reported {hci after : HciState} {data out : List UInt8} {length : Nat}
    {e : UInt16 × Nat} (tracked : Tracked hci data after out)
    (member : e ∈ completedEntries (out.take length)) :
    e.1 ∈ hci.table.live.map (·.virt) := by
  obtain ⟨code, count, i, bound, number, word⟩ := mem_completedEntries member
  have event := load8_of_take code
  have countAt := load8_of_take number
  have wordAt := load16_of_take word
  rw [tracked.code] at event
  have differs {code : UInt8} (other : load8 data 0 = .ok code) : code = hciEventNumComplPkts :=
    Except.ok.inj (other.symm.trans event)
  cases tracked with
  | connected other => exact absurd (differs other) (by decide)
  | disconnected other => exact absurd (differs other) (by decide)
  | failed other closes =>
      rw [differs other] at closes
      exact absurd closes (by decide)
  | commandCompl other => exact absurd (differs other) (by decide)
  | numComplPkts _ originalAt run =>
      obtain ⟨entries, others⟩ := translateNumComplPkts_spec _ run
      have same : out[hciEventHdrSize]? = data[hciEventHdrSize]? := by
        apply others
        intro i _
        omega
      rw [load8_ok, same, load8_ok.mp originalAt, Option.some.injEq] at countAt
      subst countAt
      obtain ⟨phys, virt, -, found, translated⟩ := entries i bound
      have word : htole16 e.1 = htole16 virt := Except.ok.inj (wordAt.symm.trans translated)
      obtain ⟨entry, live, -, rfl⟩ := ConHandleMap.hciVirtConHandleGetVirt_live found
      have handle : e.1 = entry.virt := by
        rw [← le16toh_htole16 e.1, word, le16toh_htole16]
      rw [handle]
      exact List.mem_map_of_mem live
  | translated other listed =>
      rw [differs other, show translatedEvents.lookup hciEventNumComplPkts = none by decide]
        at listed
      cases listed
  | passed other _ _ _ different => exact absurd (differs other) different

/-- The controller's events are not injected. -/
def Label.injects : Label → Bool
  | .reply _ _ _ _ _ => false
  | _ => true

namespace Ledger

/-- Code, bytes, and whether the event was placed. -/
abbrev Attempt := UInt8 × List UInt8 × Bool

def disconnectAttempt (link : Link) (placed : Bool) : Option Attempt :=
  if link.basebandState = .complete then
    some (hciEventDisconCompl, disconComplEvent link.hciConHandle, placed)
  else none

def attempt (a : Ledger) : Label → Option Attempt
  | .event code data placed => some (code, data, placed)
  | .request w placed => some (hciEventConReq, conReqEvent (a.core.links w).bdaddr, placed)
  | .accept w =>
      some (hciEventConCompl,
        conComplEvent (a.core.links w).bdaddr (hciConHandleVirtAlloc a.core.hci).1, true)
  | .disconnect w placed => disconnectAttempt (a.core.links w) placed
  | .remove d placed =>
      (a.core.slots d).assignedWiimote.bind fun w => disconnectAttempt (a.core.links w) placed
  | .credit placed =>
      if creditTotal a.core > 0 then
        some (hciEventNumComplPkts,
          numComplPktsEvent ((connectedLinks a.core).map numComplPktsEntry), placed)
      else none
  | _ => none

def placedBy : Option Attempt → List (List UInt8)
  | some (_, data, true) => [data]
  | _ => []

def lostBy : Option Attempt → List UInt8
  | some (code, _, false) => [code]
  | _ => []

@[simp] theorem placedBy_none : placedBy none = [] := rfl

@[simp] theorem lostBy_none : lostBy none = [] := rfl

def asReply (data : List UInt8) : Reply := ⟨data.length, data⟩

structure Gains (a b : Ledger) (tried : Option Attempt) : Prop where
  events : b.events = a.events ++ placedBy tried
  lost : b.lost = a.lost ++ lostBy tried
  produced : b.produced = a.produced ++ (placedBy tried).map asReply

theorem Gains.none {a b : Ledger} (events : b.events = a.events) (lost : b.lost = a.lost)
    (produced : b.produced = a.produced) : Gains a b none := by
  constructor <;> simp [events, lost, produced]

theorem place_gains (a : Ledger) (code : UInt8) (data : List UInt8) (placed : Bool) :
    Gains a (a.place code data placed) (some (code, data, placed)) := by
  cases placed <;> constructor <;> simp [place, placedBy, lostBy, asReply]

theorem release_gains (a : Ledger) (d : Option SlotId) : Gains a (a.release d) none := by
  cases d <;> exact .none rfl rfl rfl

/-- A change of the core before an attempt is not seen in what the attempt gains. -/
theorem Gains.core {a b : Ledger} {tried : Option Attempt} {core : Core}
    (gains : Gains { a with core := core } b tried) : Gains a b tried :=
  ⟨gains.events, gains.lost, gains.produced⟩

theorem disconnect_gains (a : Ledger) (w : WiimoteId) (placed : Bool) :
    Gains a (a.disconnect w placed) (disconnectAttempt (a.core.links w) placed) := by
  have released := (release_gains
    { a with core := a.core.setLink w fun link => { link with active := false } }
    (a.core.links w).inputDevice).core
  unfold Ledger.disconnect disconnectAttempt
  dsimp only
  split
  · have placed := place_gains (Ledger.release
      { a with core := a.core.setLink w fun link => { link with active := false } }
      (a.core.links w).inputDevice) hciEventDisconCompl
      (disconComplEvent (a.core.links w).hciConHandle) placed
    constructor
    · rw [placed.events, released.events, placedBy_none, List.append_nil]
    · rw [placed.lost, released.lost, lostBy_none, List.append_nil]
    · rw [placed.produced, released.produced, placedBy_none, List.map_nil, List.append_nil]
  · exact released

theorem act_gains (a : Ledger) {label : Label} (injects : label.injects = true) :
    Gains a (a.act label) (a.attempt label) := by
  cases label with
  | event code data placed => exact place_gains a code data placed
  | request w placed =>
      have attempted := place_gains a hciEventConReq (conReqEvent (a.core.links w).bdaddr) placed
      simp only [act, attempt]
      split
      · exact ⟨attempted.events, attempted.lost, attempted.produced⟩
      · exact attempted
  | accept w => exact (place_gains _ _ _ _).core
  | disconnect w placed => exact disconnect_gains a w placed
  | forget w =>
      simp only [act, attempt]
      split
      · have released := release_gains a (a.core.links w).inputDevice
        exact ⟨released.events, released.lost, released.produced⟩
      · exact .none rfl rfl rfl
  | credit placed =>
      simp only [act, attempt]
      split
      · exact (place_gains _ _ _ _).core
      · exact .none rfl rfl rfl
  | remove d placed =>
      simp only [act, attempt, remove]
      rcases assigned : (a.core.slots d).assignedWiimote with _ | w
      · exact .none rfl rfl rfl
      · have attempted := (disconnect_gains
          { a with core := a.core.setLink w fun link => { link with inputDevice := none } } w
          placed).core
        simp only [setLink_links, Function.update_self] at attempted
        exact ⟨attempted.events, attempted.lost, attempted.produced⟩
  | reply => cases injects
  | _ => exact .none rfl rfl rfl

theorem act_events (a : Ledger) (label : Label) :
    (a.act label).events = a.events ++ placedBy (a.attempt label) ∧
      (a.act label).lost = a.lost ++ lostBy (a.attempt label) := by
  by_cases injects : label.injects = true
  · exact ⟨(act_gains a injects).events, (act_gains a injects).lost⟩
  · cases label with
    | reply => exact ⟨(List.append_nil _).symm, (List.append_nil _).symm⟩
    | _ => exact absurd rfl injects

def delivered (a : Ledger) (label : Label) : List Reply :=
  match label with
  | .reply retval _ tracked _ placed =>
      if placed then [Endpoint.handDownContent retval tracked] else []
  | _ => (placedBy (a.attempt label)).map asReply

theorem act_produced (a : Ledger) (label : Label) :
    (a.act label).produced = a.produced ++ a.delivered label := by
  by_cases injects : label.injects = true
  · rw [(act_gains a injects).produced]
    cases label with
    | reply => cases injects
    | _ => rfl
  · cases label with
    | reply retval buffer tracked hci placed =>
        cases placed
        · exact (List.append_nil _).symm
        · rfl
    | _ => exact absurd rfl injects

theorem mem_placedBy {tried : Option Attempt} {data : List UInt8} :
    data ∈ placedBy tried ↔ ∃ code, tried = some (code, data, true) := by
  unfold placedBy
  split
  · simp only [List.mem_singleton, Option.some.injEq, Prod.mk.injEq]
    constructor
    · rintro rfl
      exact ⟨_, rfl, rfl, trivial⟩
    · rintro ⟨code, -, same, -⟩
      exact same.symm
  · rename_i failed
    constructor
    · intro member
      cases member
    · rintro ⟨code, same⟩
      exact absurd same (failed code data)

theorem complete_accept {a : Ledger} {label : Label} {data : List UInt8} {bdaddr : BdAddr}
    {handle : UInt16} (enabled : a.Enabled label) (member : data ∈ placedBy (a.attempt label))
    (completes : lifecycleEvent data = some (.complete bdaddr handle)) :
    ∃ w, label = .accept w ∧ (a.core.links w).bdaddr = bdaddr := by
  obtain ⟨code, tried⟩ := mem_placedBy.mp member
  have closing {link : Link} {placed : Bool}
      (tried : disconnectAttempt link placed = some (code, data, true)) : False := by
    unfold disconnectAttempt at tried
    split at tried
    · cases tried
      simp at completes
    · cases tried
  cases label with
  | event eventCode bytes placed =>
      cases tried
      obtain ⟨rest, rfl⟩ := enabled.2 rfl
      rw [lifecycleEvent_event enabled.1] at completes
      cases completes
  | request w placed =>
      cases tried
      simp at completes
  | accept w =>
      cases tried
      simp only [lifecycleEvent_conCompl, Option.some.injEq, LifecycleEvent.complete.injEq]
        at completes
      exact ⟨w, rfl, completes.1⟩
  | disconnect w placed => exact (closing tried).elim
  | remove d placed =>
      obtain ⟨w, -, tried⟩ := Option.bind_eq_some_iff.mp tried
      exact (closing tried).elim
  | credit placed =>
      simp only [attempt] at tried
      split at tried
      · cases tried
        simp at completes
      · cases tried
  | _ => cases tried

end Ledger

end Fakemote
