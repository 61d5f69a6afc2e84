import Fakemote.Library.Program
import Fakemote.Hci

/-! Results of IOS calls and the ways the module can stop. -/

namespace Fakemote

inductive IosResult
  | iosOk
  | iosEnomem
  | iosEqueueFull
  deriving DecidableEq, Repr

inductive Assertion
  | handDownSize
  | createCon
  | hostNumComplPkts
  | conHandleGetPhys
  | conHandleGetVirt
  | conHandleMap
  | conHandleUnmap
  | injected
  | readStoredLinkKey
  | hidReportSize
  | configReqFlags
  | configOptionLength
  | connectRspStatus
  | configRspResult
  | channelInfo
  | outputReport
  deriving DecidableEq, Repr

/-- A failed assertion hangs the console. The others are accesses through NULL, accesses outside
the memory that is there, and writes past the end of a block of the injection heap. -/
inductive Fault
  | assertion (failed : Assertion)
  | nullPointer
  | outOfBounds
  | heapOverflow
  deriving DecidableEq, Repr

def orFault {α : Type} (fault : Fault) : Option α → Except Fault α
  | some a => .ok a
  | none => .error fault

@[simp] theorem orFault_ok {α : Type} {fault : Fault} {x : Option α} {a : α} :
    orFault fault x = .ok a ↔ x = some a := by
  cases x <;> simp [orFault]

theorem orFault_error {α : Type} {fault e : Fault} {x : Option α}
    (run : orFault fault x = .error e) : e = fault := by
  cases x <;> simp [orFault] at run
  exact run.symm

-- Big-endian loads and stores that fault outside the buffer.

def load8 (buffer : List UInt8) (offset : Nat) : Except Fault UInt8 :=
  orFault .outOfBounds (Bytes.load8 buffer offset)

def load16 (buffer : List UInt8) (offset : Nat) : Except Fault UInt16 :=
  orFault .outOfBounds (Bytes.load16 buffer offset)

def loadBytes (buffer : List UInt8) (offset count : Nat) : Except Fault (List UInt8) :=
  orFault .outOfBounds (Bytes.loadBytes buffer offset count)

def loadBdaddr (buffer : List UInt8) (offset : Nat) : Except Fault BdAddr :=
  match buffer.drop offset with
  | a :: b :: c :: d :: e :: f :: _ => .ok ⟨[a, b, c, d, e, f], rfl⟩
  | _ => .error .outOfBounds

def storeBytes (buffer : List UInt8) (offset : Nat) (bytes : List UInt8) :
    Except Fault (List UInt8) :=
  orFault .outOfBounds (Bytes.storeBytes buffer offset bytes)

def store16 (buffer : List UInt8) (offset : Nat) (word : UInt16) : Except Fault (List UInt8) :=
  orFault .outOfBounds (Bytes.store16 buffer offset word)

end Fakemote
