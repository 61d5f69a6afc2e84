import Mathlib.Algebra.GroupWithZero.Nat
import Fakemote.HostSettings
import Fakemote.InBounds

/-! The stored link keys: the host gets the fake Wiimotes' keys in an event of their own, and the
Command Complete event of the dongle, which can come any time later, counts them. -/

namespace Fakemote

open Bytes Program Ledger Transition LastSet

def linkKeysEvent : List UInt8 :=
  [hciEventReturnLinkKeys, 45, 2] ++ (fakeWiimoteBdaddr 0).val ++ List.replicate hciKeySize 0 ++
    (fakeWiimoteBdaddr 1).val ++ List.replicate hciKeySize 0

def keysIn : List UInt8 → Nat
  | code :: _ :: count :: _ => if code = hciEventReturnLinkKeys then count.toNat else 0
  | _ => 0

def Ledger.keysBrought (a : Ledger) : Nat := (a.events.map keysIn).sum

def Ledger.keysLost (a : Ledger) : Nat := a.lost.count hciEventReturnLinkKeys

/-- What a Read Stored Link Key command asks for, and what comes of it: the keys that its event
brings, and the events that are lost. -/
structure KeyRequest where
  readAll : Bool
  brought : Nat
  lost : Nat
  deriving DecidableEq, Repr

/-- Both keys in one event, which is lost if the injection fails; or no event. -/
def KeyRequest.Answered (request : KeyRequest) : Prop :=
  if request.readAll then
    request.brought = maxFakeWiimotes ∧ request.lost = 0 ∨ request.brought = 0 ∧ request.lost = 1
  else request.brought = 0 ∧ request.lost = 0

def KeyRequest.counted (request : KeyRequest) : Nat := if request.readAll then maxFakeWiimotes else 0

def KeyRequest.unasked : KeyRequest := ⟨false, 0, 0⟩

theorem place_keys (a : Ledger) (placed : Bool) :
    (a.place hciEventReturnLinkKeys linkKeysEvent placed).keysBrought =
        a.keysBrought + (if placed then maxFakeWiimotes else 0) ∧
      (a.place hciEventReturnLinkKeys linkKeysEvent placed).keysLost =
        a.keysLost + if placed then 0 else 1 := by
  have brought : keysIn linkKeysEvent = maxFakeWiimotes := by decide
  unfold place Ledger.keysBrought Ledger.keysLost
  cases placed with
  | true =>
      rw [if_pos rfl, if_pos rfl, if_pos rfl]
      simp [brought]
  | false =>
      rw [if_neg Bool.false_ne_true, if_neg Bool.false_ne_true, if_neg Bool.false_ne_true]
      simp

theorem handleReadStoredLinkKey_cases {s t : World} {payload : List UInt8} {handled : Bool}
    (run : handleReadStoredLinkKey payload s = .ok (handled, t)) :
    handled = false ∧ ∃ readAll, load8 payload 6 = .ok readAll ∧
      ((readAll ≠ 0 ∧ ∃ placed,
        t.ledger = s.ledger.place hciEventReturnLinkKeys linkKeysEvent placed) ∨
      (readAll = 0 ∧ t = s)) := by
  obtain ⟨bdaddr, _, first, run⟩ := bind_ok.mp run
  obtain ⟨-, rfl⟩ := lift_ok.mp first
  obtain ⟨readAll, _, second, run⟩ := bind_ok.mp run
  obtain ⟨loaded, rfl⟩ := lift_ok.mp second
  obtain ⟨_, _, got, run⟩ := bind_ok.mp run
  cases got
  rcases ite_run run with ⟨all, run⟩ | ⟨one, run⟩
  · obtain ⟨ret, s1, injected, run⟩ := bind_ok.mp run
    cases run
    exact ⟨rfl, readAll, loaded, Or.inl ⟨all, _, injectHciEvent_exact rfl injected⟩⟩
  · rcases ite_run run with ⟨-, run⟩ | ⟨-, run⟩
    · cases run
    · cases run
      exact ⟨rfl, readAll, loaded, Or.inr ⟨not_not.mp one, rfl⟩⟩

def keyRequest (s t : World) (data : List UInt8) : KeyRequest where
  readAll := (load8 data (hciCmdHdrSize + 6)).toOption.any (· ≠ 0)
  brought := t.ledger.keysBrought - s.ledger.keysBrought
  lost := t.ledger.keysLost - s.ledger.keysLost

theorem readStoredLinkKey_answered {s t : World} {data : List UInt8}
    (opcode : commandOpcode data = some hciCmdReadStoredLinkKey)
    (run : step s (.hciCommand data) = .ok t) :
    (keyRequest s t data).Answered ∧
      (keyRequest s t data).readAll = decide (t.core.hci.hciReadStoredLinkKeyReadAll ≠ 0) := by
  obtain ⟨forwarded, s1, command, last⟩ := bind_ok.mp (step_ok.mp run)
  cases last
  have readAll := (hciCommand_sets command).readAll
  obtain ⟨word, _, first, command⟩ := bind_ok.mp command
  obtain ⟨loaded, rfl⟩ := lift_ok.mp first
  have word : le16toh word = hciCmdReadStoredLinkKey := by
    simpa [commandOpcode, loaded] using opcode
  rw [word] at command
  obtain ⟨handled, s2, managed, command⟩ := bind_ok.mp command
  obtain ⟨rfl, all, allAt, answered⟩ := handleReadStoredLinkKey_cases managed
  obtain ⟨_, _, got, command⟩ := bind_ok.mp command
  cases got
  obtain ⟨⟨hci, bytes⟩, _, snooped, command⟩ := bind_ok.mp command
  obtain ⟨-, rfl⟩ := lift_ok.mp snooped
  cases command
  rw [load8_drop] at allAt
  rw [setsReadAll, setting_own opcode (by decide) allAt] at readAll
  have asks : (keyRequest s { s2 with core := { s2.core with hci := hci } } data).readAll =
      decide (all ≠ 0) := by
    simp only [keyRequest, allAt]
    rfl
  refine ⟨?_, asks.trans (by rw [show hci.hciReadStoredLinkKeyReadAll = all from readAll])⟩
  unfold KeyRequest.Answered
  rw [asks]
  rcases answered with ⟨asked, placed, moved⟩ | ⟨unasked, rfl⟩
  · obtain ⟨brought, lost⟩ := place_keys s.ledger placed
    rw [← moved] at brought lost
    have bring := Nat.sub_eq_of_eq_add' brought
    have lose := Nat.sub_eq_of_eq_add' lost
    rw [if_pos (decide_eq_true asked)]
    cases placed with
    | true => exact Or.inl ⟨bring, lose⟩
    | false => exact Or.inr ⟨bring, lose⟩
  · rw [if_neg (by simp [unasked])]
    exact ⟨Nat.sub_self _, Nat.sub_self _⟩

def CompletesReadKeys (data : List UInt8) : Prop :=
  Bytes.load8 data 0 = some hciEventCommandCompl ∧
    (Bytes.load16 data (hciEventHdrSize + 1)).map le16toh = some hciCmdReadStoredLinkKey

/-- Both numbers of keys are larger by `more`, and nothing else has changed. -/
structure CountsKeys (more : Nat) (data out : List UInt8) : Prop where
  maximum : ∃ count, load16 data (hciEventHdrSize + 4) = .ok count ∧
    load16 out (hciEventHdrSize + 4) = .ok (htole16 (le16toh count + UInt16.ofNat more))
  read : ∃ count, load16 data (hciEventHdrSize + 6) = .ok count ∧
    load16 out (hciEventHdrSize + 6) = .ok (htole16 (le16toh count + UInt16.ofNat more))
  others : ∀ index, index < hciEventHdrSize + 4 ∨ hciEventHdrSize + 8 ≤ index →
    out[index]? = data[index]?

theorem handleCommandCompl_counted {hci after : HciState} {data out : List UInt8}
    (completes : CompletesReadKeys data) (run : handleCommandCompl hci data = .ok (after, out)) :
    CountsKeys (if hci.hciReadStoredLinkKeyReadAll ≠ 0 then maxFakeWiimotes else 0) data out := by
  obtain ⟨word, wordAt, run⟩ := except_bind_ok.mp run
  have keys : le16toh word = hciCmdReadStoredLinkKey := by
    simpa [load16_ok.mp wordAt] using completes.2
  rw [if_pos keys] at run
  obtain ⟨maximum, maximumAt, run⟩ := except_bind_ok.mp run
  obtain ⟨read, readAt, run⟩ := except_bind_ok.mp run
  split at run
  · rename_i all
    obtain ⟨first, one, run⟩ := except_bind_ok.mp run
    obtain ⟨second, two, run⟩ := except_bind_ok.mp run
    cases run
    rw [if_pos all]
    refine ⟨⟨maximum, maximumAt, ?_⟩, ⟨read, readAt, load16_store16 two⟩, ?_⟩
    · have kept := Bytes.load16_store16_other (store16_ok.mp two)
        (show hciEventHdrSize + 4 + 1 < hciEventHdrSize + 6 ∨ _ from Or.inl (by decide))
      rw [← load16_store16 one, load16, load16, kept]
    · intro index outside
      rw [Bytes.store16_other (store16_ok.mp two) index (by omega),
        Bytes.store16_other (store16_ok.mp one) index (by omega)]
  · rename_i none
    cases run
    rw [if_neg none]
    refine ⟨⟨maximum, maximumAt, ?_⟩, ⟨read, readAt, ?_⟩, fun _ _ => rfl⟩
    · rw [maximumAt]
      simp
    · rw [readAt]
      simp

theorem handleEvent_commandCompl {hci : HciState} {data : List UInt8}
    (event : load8 data 0 = .ok hciEventCommandCompl) :
    hciStateHandleHciEventFromController hci data = handleCommandCompl hci data := by
  unfold hciStateHandleHciEventFromController
  rw [event, except_ok_bind, if_neg (by decide), if_neg (by decide), if_pos rfl]

/-- The last Read Stored Link Key command since the last reset. -/
def recordKeys (last : KeyRequest) (s : World) (input : Input) (t : World) : KeyRequest :=
  match input with
  | .hciCommand data =>
      if commandOpcode data = some hciCmdReset then .unasked
      else if commandOpcode data = some hciCmdReadStoredLinkKey then keyRequest s t data
      else last
  | _ => last

structure Remembers (last : KeyRequest) (hci : HciState) : Prop where
  answered : last.Answered
  readAll : last.readAll = decide (hci.hciReadStoredLinkKeyReadAll ≠ 0)

theorem Remembers.counted {last : KeyRequest} {hci : HciState} (remembers : Remembers last hci) :
    last.counted = if hci.hciReadStoredLinkKeyReadAll ≠ 0 then maxFakeWiimotes else 0 := by
  rw [KeyRequest.counted, remembers.readAll]
  exact if_congr decide_eq_true_iff rfl rfl

theorem Remembers.unset {hci : HciState} (unset : hci.hciReadStoredLinkKeyReadAll = 0) :
    Remembers .unasked hci where
  answered := ⟨rfl, rfl⟩
  readAll := by
    rw [unset]
    rfl

theorem Remembers.step {s t : World} {input : Input} {last : KeyRequest}
    (remembers : Remembers last s.core.hci) (run : step s input = .ok t) :
    Remembers (recordKeys last s input t) t.core.hci := by
  have sets := (step_sets run).readAll
  have same (idle : setsReadAll input = none) : Remembers last t.core.hci := by
    rw [idle] at sets
    refine ⟨remembers.answered, ?_⟩
    rw [sets]
    exact remembers.readAll
  cases input with
  | hciCommand data =>
      by_cases reset : commandOpcode data = some hciCmdReset
      · rw [setsReadAll, setting_reset reset] at sets
        simp only [recordKeys, if_pos reset]
        exact .unset sets
      · by_cases asked : commandOpcode data = some hciCmdReadStoredLinkKey
        · simp only [recordKeys, if_neg reset, if_pos asked]
          obtain ⟨answered, readAll⟩ := readStoredLinkKey_answered asked run
          exact ⟨answered, readAll⟩
        · simp only [recordKeys, if_neg reset, if_neg asked]
          apply same
          simp only [setsReadAll, setting, if_neg reset, if_neg asked]
  | aclOut | bufferRequest | handDownReply | timer => exact same rfl

/-- In every run the Command Complete event of Read Stored Link Key that the host gets counts the
keys of the dongle, and both keys of the fake Wiimotes if the last such command of the host asked
for all, whatever happened between the two. The command brought these keys in an event of their own
unless this event was lost. -/
theorem fake_keys_are_counted {env : Environment} {s t : World} {last : KeyRequest} {retval : Int}
    {written : List UInt8}
    (reached : Reachable (observed step recordKeys) (fun state input => Possible state.1 input)
      (World.init env, .unasked) (s, last))
    (run : step s (.handDownReply .intr retval written) = .ok t) (positive : 0 < retval)
    (completes : CompletesReadKeys (s.intr.filled written)) :
    last.Answered ∧ ∃ tracked, CountsKeys last.counted (s.intr.filled written) tracked ∧
      (t.intr.produced = s.intr.produced ∨
        t.intr.produced = s.intr.produced ++ [Endpoint.handDownContent retval tracked]) := by
  have remembers : Remembers last s.core.hci := by
    apply reached.invariant fun state => Remembers state.2 state.1.core.hci
    · exact .unset rfl
    · rintro ⟨s, last⟩ u input remembers - run
      obtain ⟨t, stepped, rfl⟩ := observed_ok.mp run
      exact remembers.step stepped
  obtain ⟨labels, moves, path⟩ := step_moves run
  cases moves with
  | @intrReply _ _ tracked hci placed =>
      obtain ⟨enabled, moved⟩ := path
      refine ⟨remembers.answered, tracked, ?_, ?_⟩
      · simp only [Enabled, if_pos positive] at enabled
        rw [handleEvent_commandCompl (load8_ok.mpr completes.1)] at enabled
        rw [remembers.counted]
        exact handleCommandCompl_counted completes enabled
      · have produced : t.intr.produced = (s.ledger.act
            (.reply retval (s.intr.filled written) tracked hci placed)).produced := by
          rw [← (moved : t.ledger = _)]
          rfl
        rw [produced]
        simp only [act]
        split
        · exact Or.inr rfl
        · exact Or.inl rfl

instance decidableCompletesReadKeys (data : List UInt8) : Decidable (CompletesReadKeys data) :=
  inferInstanceAs (Decidable (_ ∧ _))

/-- The dongle, which stores room for sixteen keys and has three, replies long after the command. -/
def readKeysCompletes : List UInt8 :=
  [0x0E, 8, 1, 0x0D, 0x0C, 0, 16, 0, 3, 0]

theorem fake_keys_are_counted_late :
    ∃ s t tracked, Reachable (observed step recordKeys)
        (fun state input => Possible state.1 input) (World.init .lenient, .unasked)
        (s, ⟨true, 2, 0⟩) ∧
      step s (.handDownReply .intr 10 readKeysCompletes) = .ok t ∧
      CountsKeys 2 (s.intr.filled readKeysCompletes) tracked := by
  obtain ⟨⟨s, last⟩, reached, checked⟩ : ∃ state, Reachable (observed step recordKeys)
        (fun state input => Possible state.1 input) (World.init .lenient, .unasked) state ∧
      (decide (state.2 = ⟨true, 2, 0⟩ ∧ CompletesReadKeys (state.1.intr.filled readKeysCompletes)) &&
        (step state.1 (.handDownReply .intr 10 readKeysCompletes)).toOption.any
          fun _ => true) = true :=
    exists_of_execute [.bufferRequest .intr ⟨0, 0, 64⟩, readAllStoredLinkKeys, writeScanEnable,
      .timer [.added (plainDevice 1)], acceptCon 0] (by decide +kernel)
  obtain ⟨checks, stepped⟩ := Bool.and_eq_true_iff.mp checked
  obtain ⟨asked, completes⟩ := of_decide_eq_true checks
  dsimp only at asked
  subst asked
  obtain ⟨t, run, -⟩ := exists_of_step stepped
  obtain ⟨-, tracked, counted, -⟩ := fake_keys_are_counted reached run (by decide) completes
  exact ⟨s, t, tracked, reached, run, counted⟩

end Fakemote
