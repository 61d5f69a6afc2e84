import Fakemote.KeyCoherence
import Fakemote.UninitialisedRuns

/-! Runs in which nothing that is not initialised gets into a packet for the host: whatever fresh
blocks and locals hold, the host gets the same bytes. -/

namespace Fakemote

open Bytes Program Transition

theorem LikeBytes.eq {loose : List UInt8 → Nat → Prop} {data other : List UInt8}
    (tight : ∀ bytes index, ¬ loose bytes index) (like : LikeBytes loose data other) :
    other = data :=
  List.ext_getElem? fun index => like.same index (tight data index)

theorem list_eq_of_forall₂ {α : Type} {R : α → α → Prop} {as bs : List α}
    (equal : ∀ a b, R a b → b = a) (related : List.Forall₂ R as bs) : bs = as := by
  induction related with
  | nil => rfl
  | cons head _ ih => rw [equal _ _ head, ih]

section Tight

variable {loose : List UInt8 → Nat → Prop}

theorem LikeMsg.eq (tight : ∀ bytes index, ¬ loose bytes index) {msg other : ReadyMsg}
    (like : LikeMsg loose msg other) : other = msg := by
  cases like with
  | injected bytes => rw [bytes.eq tight]
  | handDown => rfl

theorem LikeReply.eq (tight : ∀ bytes index, ¬ loose bytes index) {reply other : Reply}
    (like : LikeReply loose reply other) : other = reply := by
  obtain ⟨retval, data⟩ := reply
  obtain ⟨retval', data'⟩ := other
  obtain ⟨rfl, bytes⟩ := like
  exact congrArg _ (bytes.eq tight)

theorem LikeDropped.eq (tight : ∀ bytes index, ¬ loose bytes index) {dropped other : Dropped}
    (like : LikeDropped loose dropped other) : other = dropped := by
  cases like with
  | request msg => rfl
  | message messages => rw [messages.eq tight]

theorem LikeEndpoint.eq (tight : ∀ bytes index, ¬ loose bytes index) {e f : Endpoint}
    (like : LikeEndpoint loose e f) : f = e := by
  have acks : f.acks = e.acks :=
    list_eq_of_forall₂ (fun _ _ ack => Prod.ext ack.1 (ack.2.eq tight)) like.acks
  have readyQ := list_eq_of_forall₂ (fun _ _ => LikeMsg.eq tight) like.readyQ
  have produced := list_eq_of_forall₂ (fun _ _ => LikeReply.eq tight) like.produced
  have dropped := list_eq_of_forall₂ (fun _ _ => LikeDropped.eq tight) like.dropped
  cases e
  cases f
  obtain ⟨-, rfl, rfl, rfl, rfl, rfl, rfl, rfl, rfl, -, -, rfl, -, rfl⟩ := like
  dsimp only at acks readyQ produced dropped
  rw [acks, readyQ, produced, dropped]

end Tight

/-- The messages for the host, those that wait and those that it has, are the same to the byte. -/
structure SameToHost (s t : World) : Prop where
  events : t.events = s.events
  intr : t.intr = s.intr
  bulkIn : t.periphery.bulkIn = s.periphery.bulkIn

def Leaks.none : Leaks := ⟨false, false, false, true⟩

theorem event_tight (event : List UInt8) (index : Nat) : ¬ LooseEvent .none event index :=
  fun loose => Bool.noConfusion loose.1

theorem acl_tight (packet : List UInt8) (index : Nat) : ¬ LooseAcl .none packet index := by
  rintro ⟨-, -, loose | loose⟩
  · exact Bool.noConfusion loose.1
  · exact Bool.noConfusion loose.1

theorem LikeWorld.sameToHost {s t : World} (like : LikeWorld .none s t) : SameToHost s t where
  events := list_eq_of_forall₂ (fun _ _ => LikeBytes.eq event_tight) like.events
  intr := like.intr.eq event_tight
  bulkIn := like.periphery.bulkIn.eq acl_tight

/-- No fake Wiimote is asked for its name or its status, or announces an extension, and no poll of a
controller whose touch has left the pad writes dots. -/
def Initialised (s : World) : Part → Prop
  | .hciCommand data => ¬ AsksName s.core data
  | .aclOut data => ¬ s.AsksStatus data
  | .tick w => (s.core.links w).active = true →
      tickBranch s.core s.periphery w ≠ .extensionChange ∧
        ¬ FeedsStackDots s.core s.periphery w
  | _ => True

instance decidableInitialised (s : World) (part : Part) : Decidable (Initialised s part) :=
  match part with
  | .hciCommand data => inferInstanceAs (Decidable (¬ AsksName s.core data))
  | .aclOut data => inferInstanceAs (Decidable (¬ s.AsksStatus data))
  | .tick w => inferInstanceAs (Decidable ((s.core.links w).active = true →
      tickBranch s.core s.periphery w ≠ .extensionChange ∧
        ¬ FeedsStackDots s.core s.periphery w))
  | .bufferRequest _ _ | .handDownReply _ _ _ | .egcEvent _ | .tickSlots | .assign
  | .completedPackets => isTrue trivial

theorem Initialised.keeps {s : World} {part : Part} (initialised : Initialised s part) :
    part.Keeps .none s := by
  cases part with
  | hciCommand data => exact fun asks => absurd asks initialised
  | aclOut data => exact fun asks => absurd asks initialised
  | egcEvent event => exact fun untouched => Bool.noConfusion untouched
  | tick w =>
      intro active
      obtain ⟨announces, feeds⟩ := initialised active
      exact ⟨fun branch => absurd branch announces, fun _ _ => feeds⟩
  | _ => exact trivial

/-- Two runs on the same inputs, on any memory, give the host the same bytes. -/
theorem initialised_runs_agree {env other : Environment} (twin : env.Twin other)
    {inputs : List Input}
    (initialised : Throughout partStep Initialised (World.init env)
      (inputs.flatMap Input.parts)) :
    Alike SameToHost (runAll step (World.init env) inputs)
      (runAll step (World.init other) inputs) := by
  have like : LikeWorld .none (World.init env) (World.init other) :=
    .init twin fun untouched => Bool.noConfusion untouched
  exact (runs_alike like (initialised.mono fun _ _ => Initialised.keeps)).mono
    fun _ _ => LikeWorld.sameToHost

def touch (buttons : UInt32) (x : Int16) : Gamepad := ⟨buttons, fun _ => 0, x, 0, 0, 0, 0⟩

/-- The host watches the camera; R1 and R3 choose direct mode, and then a touch is at `x`. -/
def watchesTouch (x : Int16) : List Input :=
  hostOpens ++
    [outputReport [outputReportIdWriteData, 0x04, 0xB0, 0x00, 0x33, 1, irModeExtended],
      outputReport [outputReportIdReportMode, 0x04, inputReportIdBtnAccIr],
      .timer [.input 1 (touch 0x2800 0)], .timer [.input 1 (touch 0 0)],
      .timer [.input 1 (touch 0x2800 0)], .timer [.input 1 (touch 0 x)]]

theorem filledWith_twin (byte other : UInt8) :
    (Environment.filledWith byte).Twin (.filledWith other) :=
  ⟨fun _ => rfl, rfl⟩

/-- On the pad the host gets the same reports. -/
theorem initialised_runs_agree_touch :
    ∃ s t, runAll step (World.init (.filledWith 0)) (watchesTouch 5) = .ok s ∧
      runAll step (World.init (.filledWith 0xFF)) (watchesTouch 5) = .ok t ∧ SameToHost s t ∧
      s.periphery.bulkIn.produced.length = 11 := by
  obtain ⟨s, run, eleven⟩ : ∃ s, runAll step (World.init (.filledWith 0)) (watchesTouch 5) = .ok s ∧
      decide (s.periphery.bulkIn.produced.length = 11) = true :=
    exists_of_step (by decide +kernel)
  have alike := @initialised_runs_agree _ _ (filledWith_twin 0 0xFF) (watchesTouch 5)
    (by decide +kernel)
  obtain ⟨t, other, same⟩ := alike.of_ok run
  exact ⟨s, t, run, other, same, of_decide_eq_true eleven⟩

def givesDifferent (inputs : List Input) : Bool :=
  match runAll step (World.init (.filledWith 0)) inputs,
    runAll step (World.init (.filledWith 0xFF)) inputs with
  | .ok s, .ok t => decide (t.events ≠ s.events ∨
      t.periphery.bulkIn.produced ≠ s.periphery.bulkIn.produced)
  | _, _ => false

theorem not_alike_of_givesDifferent {inputs : List Input} (differ : givesDifferent inputs = true) :
    ¬ Alike SameToHost (runAll step (World.init (.filledWith 0)) inputs)
      (runAll step (World.init (.filledWith 0xFF)) inputs) := by
  unfold givesDifferent at differ
  intro alike
  split at differ
  · rename_i s t first second
    obtain ⟨u, again, same⟩ := alike.of_ok first
    cases second.symm.trans again
    rcases of_decide_eq_true differ with events | packets
    · exact events same.events
    · exact packets (congrArg Endpoint.produced same.bulkIn)
  · cases differ

/-- What lies behind a name, the padding of a status report, and the columns of the dots while the
touch is off the pad are bytes of the heap and of the stack. -/
theorem uninitialised_memory_reaches_host :
    (Environment.filledWith 0).Twin (.filledWith 0xFF) ∧
      ∀ inputs ∈ [[.hciCommand nameRequest], hostOpens ++ [outputReport [outputReportIdStatus, 0]],
          watchesTouch (-1)],
        ¬ Alike SameToHost (runAll step (World.init (.filledWith 0)) inputs)
          (runAll step (World.init (.filledWith 0xFF)) inputs) := by
  refine ⟨filledWith_twin 0 0xFF, fun inputs listed => not_alike_of_givesDifferent ?_⟩
  simp only [List.mem_cons, List.not_mem_nil, or_false] at listed
  rcases listed with rfl | rfl | rfl
  · decide +kernel
  · decide +kernel
  · decide +kernel

end Fakemote
