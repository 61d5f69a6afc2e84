import Fakemote.TimerPhases
import Fakemote.ControllerEvents
import Fakemote.Library.LastSet

/-! What the host has set: the state of the module agrees with the last commands of the host since
its reset, and new connections come up only while the host scans for them. -/

namespace Fakemote

open Bytes Program Ledger Transition LastSet

def recordInput (inputs : List Input) (_ : World) (input : Input) (_ : World) : List Input :=
  inputs ++ [input]

/-- What an input sets: commands with the opcode carry the value, and a reset restores it. -/
def setting {α : Type} (opcode : UInt16) (value : List UInt8 → Except Fault α) (initial : α) :
    Input → Option α
  | .hciCommand data =>
      if commandOpcode data = some hciCmdReset then some initial
      else if commandOpcode data = some opcode then (value data).toOption
      else none
  | _ => none

def setsPageScan : Input → Option UInt8 :=
  setting hciCmdWriteScanEnable (fun data => load8 data hciCmdHdrSize) 0

def setsUnitClass : Input → Option (List UInt8) :=
  setting hciCmdWriteUnitClass (fun data => loadBytes data hciCmdHdrSize hciClassSize)
    (List.replicate hciClassSize 0)

def setsReadAll : Input → Option UInt8 :=
  setting hciCmdReadStoredLinkKey (fun data => load8 data (hciCmdHdrSize + 6)) 0

structure Sets (input : Input) (before after : HciState) : Prop where
  pageScan : after.hciPageScanEnable = (setsPageScan input).getD before.hciPageScanEnable
  unitClass : after.hciUnitClass = (setsUnitClass input).getD before.hciUnitClass
  readAll : after.hciReadStoredLinkKeyReadAll =
    (setsReadAll input).getD before.hciReadStoredLinkKeyReadAll

def HciState.settings (hci : HciState) : UInt8 × List UInt8 × UInt8 :=
  (hci.hciPageScanEnable, hci.hciUnitClass, hci.hciReadStoredLinkKeyReadAll)

def NoSetting (input : Input) : Prop :=
  setsPageScan input = none ∧ setsUnitClass input = none ∧ setsReadAll input = none

theorem NoSetting.sets {input : Input} {before after : HciState} (idle : NoSetting input)
    (same : after.settings = before.settings) : Sets input before after := by
  obtain ⟨pageScan, unitClass, readAll⟩ := idle
  simp only [HciState.settings, Prod.mk.injEq] at same
  refine ⟨?_, ?_, ?_⟩
  · rw [pageScan, same.1]
    rfl
  · rw [unitClass, same.2.1]
    rfl
  · rw [readAll, same.2.2]
    rfl

section Setting

variable {α : Type} {opcode carried : UInt16} {value : List UInt8 → Except Fault α} {initial a : α}
  {data : List UInt8}

theorem setting_reset (reset : commandOpcode data = some hciCmdReset) :
    setting opcode value initial (.hciCommand data) = some initial := by
  simp only [setting, reset, if_true]

theorem setting_own (own : commandOpcode data = some opcode) (other : opcode ≠ hciCmdReset)
    (read : value data = .ok a) : setting opcode value initial (.hciCommand data) = some a := by
  simp only [setting, own, Option.some.injEq, if_neg other, if_true, read]
  rfl

theorem setting_other (command : commandOpcode data = some carried) (reset : carried ≠ hciCmdReset)
    (other : carried ≠ opcode) : setting opcode value initial (.hciCommand data) = none := by
  simp only [setting, command, Option.some.injEq, if_neg reset, if_neg other]

end Setting

theorem idle_command {data : List UInt8} {opcode : UInt16} (carried : commandOpcode data = some opcode)
    (reset : opcode ≠ hciCmdReset) (scan : opcode ≠ hciCmdWriteScanEnable)
    (unit : opcode ≠ hciCmdWriteUnitClass) (keys : opcode ≠ hciCmdReadStoredLinkKey) :
    NoSetting (.hciCommand data) :=
  ⟨setting_other carried reset scan, setting_other carried reset unit,
    setting_other carried reset keys⟩

theorem snoopHciCmd_sets {before after : HciState} {data forwarded : List UInt8} {opcode : UInt16}
    (carried : commandOpcode data = some opcode)
    (run : snoopHciCmd before opcode data = .ok (after, forwarded)) :
    Sets (.hciCommand data) before after := by
  unfold snoopHciCmd at run
  split at run
  · cases run
  · split at run
    · rename_i scan
      subst scan
      cases loaded : load8 data hciCmdHdrSize with
      | error fault =>
          rw [loaded] at run
          cases run
      | ok scanEnable =>
          rw [loaded] at run
          cases run
          refine ⟨?_, ?_, ?_⟩
          · rw [setsPageScan, setting_own carried (by decide) loaded]
            rfl
          · rw [setsUnitClass, setting_other carried (by decide) (by decide)]
            rfl
          · rw [setsReadAll, setting_other carried (by decide) (by decide)]
            rfl
    · rename_i scan
      split at run
      · rename_i unit
        subst unit
        cases loaded : loadBytes data hciCmdHdrSize hciClassSize with
        | error fault =>
            rw [loaded] at run
            cases run
        | ok uclass =>
            rw [loaded] at run
            cases run
            refine ⟨?_, ?_, ?_⟩
            · rw [setsPageScan, setting_other carried (by decide) (by decide)]
              rfl
            · rw [setsUnitClass, setting_own carried (by decide) loaded]
              rfl
            · rw [setsReadAll, setting_other carried (by decide) (by decide)]
              rfl
      · rename_i unit
        split at run
        · rename_i reset
          subst reset
          cases run
          refine ⟨?_, ?_, ?_⟩
          · rw [setsPageScan, setting_reset carried]
            rfl
          · rw [setsUnitClass, setting_reset carried]
            rfl
          · rw [setsReadAll, setting_reset carried]
            rfl
        · rename_i reset
          split at run
          · rename_i keys
            subst keys
            cases loaded : load8 data (hciCmdHdrSize + 6) with
            | error fault =>
                rw [loaded] at run
                cases run
            | ok readAll =>
                rw [loaded] at run
                cases run
                refine ⟨?_, ?_, ?_⟩
                · rw [setsPageScan, setting_other carried (by decide) (by decide)]
                  rfl
                · rw [setsUnitClass, setting_other carried (by decide) (by decide)]
                  rfl
                · rw [setsReadAll, setting_own carried (by decide) loaded]
                  rfl
          · rename_i keys
            have idle := idle_command carried reset scan unit keys
            split at run
            · cases run
            · split at run
              · cases translated : translateToPhys before.table data hciCmdHdrSize with
                | error fault =>
                    rw [translated] at run
                    cases run
                | ok bytes =>
                    rw [translated] at run
                    cases run
                    exact idle.sets rfl
              · cases run
                exact idle.sets rfl

def Label.keepsSettings : Label → Bool
  | .snoop _ | .reset | .reply _ _ _ _ _ => false
  | _ => true

theorem act_settings {a : Ledger} {label : Label} (keeps : label.keepsSettings = true) :
    (a.act label).core.hci.settings = a.core.hci.settings := by
  by_cases touches : label.touchesHci = true
  · cases label with
    | accept w =>
        rw [accept_core]
        rfl
    | snoop | reset | reply => cases keeps
    | _ => cases touches
  · rw [act_hci (Bool.eq_false_iff.mpr touches)]

theorem path_settings {a b : Ledger} {labels : List Label} (path : a.Path labels b)
    (keeps : ∀ label ∈ labels, label.keepsSettings = true) :
    b.core.hci.settings = a.core.hci.settings := by
  induction labels generalizing a with
  | nil => rw [(path : b = a)]
  | cons label labels ih =>
      rw [ih path.2 fun l member => keeps l (List.mem_cons_of_mem _ member),
        act_settings (keeps label List.mem_cons_self)]

theorem EventsOnly.keepsSettings {labels : List Label} (events : EventsOnly labels) :
    ∀ label ∈ labels, label.keepsSettings = true := by
  intro label member
  obtain ⟨_, _, _, rfl⟩ := events label member
  rfl

theorem EventsOnly.keepsSettings_snoc {labels : List Label} {last : Label}
    (events : EventsOnly labels) (keeps : last.keepsSettings = true) :
    ∀ label ∈ labels ++ [last], label.keepsSettings = true := by
  intro label member
  rcases List.mem_append.mp member with before | here
  · exact events.keepsSettings label before
  · rw [List.mem_singleton.mp here]
    exact keeps

theorem managed_settings {s t : World} {opcode : UInt16} {payload : List UInt8} {handled : Bool}
    (run : fakeWiimoteMgrHandleHciCmdFromHost opcode payload s = .ok (handled, t)) :
    t.core.hci.settings = s.core.hci.settings := by
  by_cases disconnect : opcode = hciCmdDisconnect
  · unfold fakeWiimoteMgrHandleHciCmdFromHost at run
    rw [if_pos disconnect] at run
    obtain ⟨handle, -, ⟨w, placed, events, -, -, only, path⟩ | ⟨-, rfl⟩⟩ := handleDisconnect_path run
    · exact path_settings path (only.keepsSettings_snoc rfl)
    · rfl
  · by_cases accept : opcode = hciCmdAcceptCon
    · unfold fakeWiimoteMgrHandleHciCmdFromHost at run
      rw [if_neg disconnect, if_pos accept] at run
      obtain ⟨bdaddr, -, ⟨w, events, -, -, only, path⟩ | ⟨-, -, rfl⟩⟩ := handleAcceptCon_path run
      · exact path_settings path (only.keepsSettings_snoc rfl)
      · rfl
    · by_cases reject : opcode = hciCmdRejectCon
      · unfold fakeWiimoteMgrHandleHciCmdFromHost at run
        rw [if_neg disconnect, if_neg accept, if_pos reject] at run
        obtain ⟨bdaddr, -, ⟨w, placed, -, -, path⟩ | ⟨-, -, rfl⟩⟩ := handleRejectCon_path run
        · exact path_settings path (EventsOnly.nil.keepsSettings_snoc rfl)
        · rfl
      · by_cases reset : opcode = hciCmdReset
        · subst reset
          change handleReset s = _ at run
          obtain ⟨-, path⟩ := handleReset_path run
          apply path_settings path
          simp [Label.keepsSettings]
        · obtain ⟨events, only, path⟩ := informs_managed _ disconnect accept reject reset _ _ _ run
          exact path_settings path only.keepsSettings

/-- A command that sets something is forwarded. -/
theorem managed_forwards {s t : World} {opcode : UInt16} {payload : List UInt8}
    (run : fakeWiimoteMgrHandleHciCmdFromHost opcode payload s = .ok (true, t)) :
    opcode ≠ hciCmdReset ∧ opcode ≠ hciCmdWriteScanEnable ∧ opcode ≠ hciCmdWriteUnitClass ∧
      opcode ≠ hciCmdReadStoredLinkKey := by
  refine ⟨?_, ?_, ?_, ?_⟩
  · rintro rfl
    change handleReset s = _ at run
    cases (handleReset_path run).1
  · rintro rfl
    change (pure false : M Bool) s = _ at run
    cases run
  · rintro rfl
    change (pure false : M Bool) s = _ at run
    cases run
  · rintro rfl
    change handleReadStoredLinkKey payload s = _ at run
    obtain ⟨bdaddr, _, first, run⟩ := bind_ok.mp run
    obtain ⟨readAll, _, second, run⟩ := bind_ok.mp run
    obtain ⟨_, _, got, run⟩ := bind_ok.mp run
    rcases ite_run run with ⟨-, run⟩ | ⟨-, run⟩
    · obtain ⟨ret, _, injected, run⟩ := bind_ok.mp run
      cases run
    · rcases ite_run run with ⟨-, run⟩ | ⟨-, run⟩
      · cases run
      · cases run

theorem hciCommand_sets {s t : World} {data : List UInt8} {result : Bool × List UInt8}
    (run : hciStateHandleHciCmdFromHost data s = .ok (result, t)) :
    Sets (.hciCommand data) s.core.hci t.core.hci := by
  obtain ⟨word, _, first, run⟩ := bind_ok.mp run
  obtain ⟨loaded, rfl⟩ := lift_ok.mp first
  have carried : commandOpcode data = some (le16toh word) := by simp [commandOpcode, loaded]
  obtain ⟨handled, s1, managed, run⟩ := bind_ok.mp run
  have kept := managed_settings managed
  cases handled with
  | true =>
      cases run
      obtain ⟨reset, scan, unit, keys⟩ := managed_forwards managed
      exact (idle_command carried reset scan unit keys).sets kept
  | false =>
      obtain ⟨_, _, got, run⟩ := bind_ok.mp run
      cases got
      obtain ⟨⟨hci, bytes⟩, s2, snooped, run⟩ := bind_ok.mp run
      obtain ⟨snoop, rfl⟩ := lift_ok.mp snooped
      cases run
      have sets := snoopHciCmd_sets carried snoop
      simp only [HciState.settings, Prod.mk.injEq] at kept
      obtain ⟨pageScan, unitClass, readAll⟩ := kept
      refine ⟨?_, ?_, ?_⟩
      · rw [← pageScan]
        exact sets.pageScan
      · rw [← unitClass]
        exact sets.unitClass
      · rw [← readAll]
        exact sets.readAll

theorem tracked_settings {before after : HciState} {data out : List UInt8}
    (tracked : Tracked before data after out) : after.settings = before.settings := by
  cases tracked <;> rfl

theorem TimerMove.keepsSettings {label : Label} (timed : TimerMove label) :
    label.keepsSettings = true := by
  cases timed <;> rfl

theorem moves_settings {s : World} {input : Input} {labels : List Label} {b : Ledger}
    (moves : Moves s input labels) (path : s.ledger.Path labels b)
    (other : ∀ data, input ≠ .hciCommand data) :
    b.core.hci.settings = s.core.hci.settings := by
  cases moves with
  | accept | reject | disconnect | reset | answer | forward => exact absurd rfl (other _)
  | @consume data w disconnects found only length =>
      apply path_settings path
      intro label member
      rcases List.mem_cons.mp member with rfl | later
      · rfl
      · obtain ⟨placed, rfl⟩ := only label later
        rfl
  | translate | bufferRequest | bulkInReply => rw [(path : b = s.ledger)]; rfl
  | @intrReply retval written tracked hci placed =>
      obtain ⟨enabled, rfl⟩ := path
      change hci.settings = _
      simp only [Enabled] at enabled
      split at enabled
      · exact tracked_settings (handleEvent_tracked enabled)
      · rw [enabled.1]
        rfl
  | @timer events labels placed timed =>
      apply path_settings path
      intro label member
      rcases List.mem_append.mp member with before | here
      · exact (timed label before).keepsSettings
      · rw [List.mem_singleton.mp here]
        rfl

theorem step_sets {s t : World} {input : Input} (run : step s input = .ok t) :
    Sets input s.core.hci t.core.hci := by
  by_cases command : ∃ data, input = .hciCommand data
  · obtain ⟨data, rfl⟩ := command
    obtain ⟨forwarded, s1, first, last⟩ := bind_ok.mp (step_ok.mp run)
    cases last
    exact hciCommand_sets first
  · have other (data : List UInt8) : input ≠ .hciCommand data := fun same => command ⟨data, same⟩
    have idle : NoSetting input := by
      cases input with
      | hciCommand data => exact absurd rfl (other data)
      | _ => exact ⟨rfl, rfl, rfl⟩
    obtain ⟨labels, moves, path⟩ := step_moves run
    exact idle.sets (moves_settings moves path other)

abbrev InputRun (env : Environment) : World × List Input → Prop :=
  Reachable (observed step recordInput) (fun state input => Possible state.1 input)
    (World.init env, [])

/-- The settings of the module are the last that these inputs made since the reset. -/
structure AsSet (inputs : List Input) (hci : HciState) : Prop where
  pageScan : hci.hciPageScanEnable = value setsPageScan 0 inputs
  unitClass : hci.hciUnitClass = value setsUnitClass (List.replicate hciClassSize 0) inputs
  readAll : hci.hciReadStoredLinkKeyReadAll = value setsReadAll 0 inputs

theorem Sets.asSet {inputs : List Input} {input : Input} {before after : HciState}
    (sets : Sets input before after) (held : AsSet inputs before) :
    AsSet (inputs ++ [input]) after where
  pageScan := by rw [value_snoc, ← held.pageScan, sets.pageScan]
  unitClass := by rw [value_snoc, ← held.unitClass, sets.unitClass]
  readAll := by rw [value_snoc, ← held.readAll, sets.readAll]

theorem InputRun.asSet {env : Environment} {s : World} {inputs : List Input}
    (reached : InputRun env (s, inputs)) : AsSet inputs s.core.hci := by
  apply reached.invariant fun state => AsSet state.2 state.1.core.hci
  · exact ⟨rfl, rfl, rfl⟩
  · rintro ⟨s, inputs⟩ u input held - run
    obtain ⟨t, stepped, rfl⟩ := observed_ok.mp run
    exact (step_sets stepped).asSet held

/-- The injections of events with this code so far, whether they were placed or lost. -/
def Ledger.attempts (a : Ledger) (code : UInt8) : Nat :=
  a.events.countP (fun event => event.head? = some code) + a.lost.count code

theorem place_attempts {a : Ledger} {code other : UInt8} {data : List UInt8} {placed : Bool}
    (starts : placed = true → data.head? = some code) :
    (a.place code data placed).attempts other =
      a.attempts other + if code = other then 1 else 0 := by
  unfold place Ledger.attempts
  by_cases same : code = other
  · split
    · rename_i yes
      simp [starts yes, same]
      omega
    · simp [same]
      omega
  · split
    · rename_i yes
      simp [starts yes, same]
    · simp [same]

theorem release_attempts (a : Ledger) (d : Option SlotId) (code : UInt8) :
    (a.release d).attempts code = a.attempts code := by
  cases d <;> rfl

theorem disconnect_attempts (a : Ledger) (w : WiimoteId) (placed : Bool) {code : UInt8}
    (other : hciEventDisconCompl ≠ code) : (a.disconnect w placed).attempts code = a.attempts code := by
  unfold Ledger.disconnect
  dsimp only
  split
  · rw [place_attempts fun _ => rfl, release_attempts, if_neg other]
    rfl
  · rw [release_attempts]
    rfl

def Label.seeks : Label → Bool
  | .assign _ _ | .request _ _ => true
  | _ => false

theorem act_attempts {a : Ledger} {label : Label} (enabled : a.Enabled label)
    (quiet : label.seeks = false) :
    (a.act label).attempts hciEventConReq = a.attempts hciEventConReq := by
  cases label with
  | event code data placed =>
      simp only [act]
      rw [place_attempts, if_neg, Nat.add_zero]
      · rintro rfl
        exact enabled.1 (by decide)
      · intro yes
        obtain ⟨rest, rfl⟩ := enabled.2 yes
        rfl
  | accept w =>
      simp only [act]
      rw [place_attempts fun _ => rfl, if_neg (by decide)]
      rfl
  | disconnect w placed => exact disconnect_attempts a w placed (by decide)
  | forget w =>
      simp only [act]
      split
      · exact release_attempts a _ _
      · rfl
  | credit placed =>
      simp only [act]
      split
      · rw [place_attempts fun _ => rfl, if_neg (by decide)]
        rfl
      · rfl
  | remove d placed =>
      simp only [act, remove]
      rcases (a.core.slots d).assignedWiimote with _ | w
      · rfl
      · exact disconnect_attempts _ w placed (by decide)
  | assign | request => cases quiet
  | snoop | consume | plug | tickSlots | reset | reply => rfl

theorem act_active {a : Ledger} {label : Label} (quiet : label.seeks = false) {w : WiimoteId}
    (active : ((a.act label).core.links w).active = true) : (a.core.links w).active = true := by
  rw [act_links] at active
  cases label with
  | accept | disconnect | forget | consume | remove =>
      dsimp only [Label.relink] at active
      split at active
      · first | exact active | cases active
      · exact active
  | credit placed =>
      dsimp only [Label.relink, resetCount] at active
      split at active
      · exact active
      · exact active
  | assign | request => cases quiet
  | event | snoop | plug | tickSlots | reset | reply => exact active

/-- Nothing new: no Connection Request and no fake Wiimote that becomes active. -/
structure NothingNew (a b : Ledger) : Prop where
  requests : b.attempts hciEventConReq = a.attempts hciEventConReq
  active : ∀ w, (b.core.links w).active = true → (a.core.links w).active = true

theorem NothingNew.refl (a : Ledger) : NothingNew a a := ⟨rfl, fun _ active => active⟩

theorem NothingNew.trans {a b c : Ledger} (one : NothingNew a b) (two : NothingNew b c) :
    NothingNew a c :=
  ⟨two.requests.trans one.requests, fun w active => one.active w (two.active w active)⟩

theorem act_nothingNew {a : Ledger} {label : Label} (enabled : a.Enabled label)
    (quiet : label.seeks = false) : NothingNew a (a.act label) :=
  ⟨act_attempts enabled quiet, fun _ active => act_active quiet active⟩

theorem path_nothingNew {a b : Ledger} {labels : List Label} (path : a.Path labels b)
    (quiet : ∀ label ∈ labels, label.seeks = false) : NothingNew a b := by
  induction labels generalizing a with
  | nil => rw [(path : b = a)]; exact .refl a
  | cons label labels ih =>
      apply (act_nothingNew path.1 (quiet label List.mem_cons_self)).trans
      exact ih path.2 fun l member => quiet l (List.mem_cons_of_mem _ member)

theorem quiet_of_untimed {label : Label} (untimed : ¬ TimerMove label) : label.seeks = false := by
  cases label with
  | assign => exact absurd .assign untimed
  | request => exact absurd .request untimed
  | _ => rfl

theorem plugSafe.quiet {events : List EgcEvent} {core : Core} {label : Label}
    (safe : plugSafe events core label) : label.seeks = false ∧ label.touchesHci = false := by
  cases label with
  | plug | remove => exact ⟨rfl, rfl⟩
  | _ => cases safe

theorem plugs_nothingNew {events : List EgcEvent} {a b : Ledger} {labels : List Label}
    (path : a.Path labels b) (safe : a.Along (plugSafe events) labels) :
    NothingNew a b ∧ b.core.hci = a.core.hci := by
  induction labels generalizing a with
  | nil =>
      rw [(path : b = a)]
      exact ⟨.refl a, rfl⟩
  | cons label labels ih =>
      obtain ⟨quiet, untouched⟩ := safe.1.quiet
      obtain ⟨rest, same⟩ := ih path.2 safe.2
      exact ⟨(act_nothingNew path.1 quiet).trans rest, same.trans (act_hci untouched)⟩

theorem Asked.nothingNew {w : WiimoteId} {a b : Ledger} (asked : Asked w a b)
    (cannot : hciCanRequestConnection a.core.hci = false) : b = a := by
  rcases asked with ⟨same, -⟩ | ⟨asks, -⟩
  · exact same
  · rw [asks.2.2] at cannot
    cases cannot

theorem TimerPhases.nothingNew {events : List EgcEvent} {a b : Ledger}
    (phases : TimerPhases events a b) (cannot : hciCanRequestConnection a.core.hci = false) :
    NothingNew a b := by
  obtain ⟨path, safe, asked0, asked1⟩ := phases
  rename_i labels plugged first second placed
  obtain ⟨plugs, hci⟩ := plugs_nothingNew path safe
  have still : hciCanRequestConnection (plugged.act .tickSlots).core.hci = false := by
    rw [act_hci rfl, hci]
    exact cannot
  have kept : (plugged.act .tickSlots).offers = plugged.act .tickSlots := by
    unfold Ledger.offers
    rw [if_neg (by rw [still]; simp)]
  rw [kept] at asked0
  have same0 := asked0.nothingNew still
  subst same0
  have same1 := asked1.nothingNew still
  subst same1
  apply plugs.trans
  apply (@act_nothingNew plugged .tickSlots trivial rfl).trans
  exact act_nothingNew trivial rfl

theorem InputRun.new_connections {env : Environment} {s t : World} {inputs : List Input}
    {input : Input} (reached : InputRun env (s, inputs)) (run : step s input = .ok t)
    (new : ¬ NothingNew s.ledger t.ledger) :
    (∃ events, input = .timer events) ∧ value setsPageScan 0 inputs &&& hciPageScanEnable ≠ 0 := by
  by_cases timed : ∃ events, input = .timer events
  · refine ⟨timed, ?_⟩
    obtain ⟨events, rfl⟩ := timed
    rw [← reached.asSet.pageScan]
    intro off
    apply new
    apply (step_phases run).nothingNew
    exact decide_eq_false fun on => on off
  · obtain ⟨labels, moves, path⟩ := step_moves run
    have untimed := moves.untimed fun events same => timed ⟨events, same⟩
    have quiet : ∀ label ∈ labels, label.seeks = false :=
      fun label member => quiet_of_untimed (untimed label member)
    exact absurd (path_nothingNew path quiet) new

/-- In every run the settings are what the commands of the host since its reset set, and new
connections come up only in a timer, while the last Write Scan Enable of the host since its reset
turned page scan on. -/
theorem new_connections_need_page_scan {env : Environment} {s : World} {inputs : List Input}
    (reached : InputRun env (s, inputs)) :
    AsSet inputs s.core.hci ∧ ∀ input t, step s input = .ok t →
      (t.ledger.attempts hciEventConReq ≠ s.ledger.attempts hciEventConReq ∨
        ∃ w, (t.core.links w).active = true ∧ (s.core.links w).active = false) →
      (∃ events, input = .timer events) ∧
        value setsPageScan 0 inputs &&& hciPageScanEnable ≠ 0 := by
  refine ⟨reached.asSet, fun input t run new => reached.new_connections run fun nothing => ?_⟩
  rcases new with requests | ⟨w, active, inactive⟩
  · exact requests nothing.requests
  · have before : (s.core.links w).active = true := nothing.active w active
    rw [before] at inactive
    cases inactive

/-- A controller is plugged in while the host scans, and a connection is requested for it. -/
theorem new_connections_need_page_scan_plugged :
    ∃ s inputs t, InputRun .lenient (s, inputs) ∧
      step s (.timer [.added (plainDevice 1)]) = .ok t ∧
      t.ledger.attempts hciEventConReq ≠ s.ledger.attempts hciEventConReq ∧
      AsSet inputs s.core.hci ∧ value setsPageScan 0 inputs &&& hciPageScanEnable ≠ 0 := by
  obtain ⟨⟨s, inputs⟩, reached, checked⟩ : ∃ state, InputRun .lenient state ∧
      (step state.1 (.timer [.added (plainDevice 1)])).toOption.any
        (fun t => decide (t.ledger.attempts hciEventConReq ≠
          state.1.ledger.attempts hciEventConReq)) = true :=
    exists_of_execute [writeScanEnable] (by decide +kernel)
  obtain ⟨t, run, new⟩ := exists_of_step checked
  have requests := of_decide_eq_true new
  obtain ⟨settings, connections⟩ := new_connections_need_page_scan reached
  exact ⟨s, inputs, t, reached, run, requests, settings,
    (connections _ t run (Or.inl requests)).2⟩

end Fakemote
