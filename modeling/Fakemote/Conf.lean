import Fakemote.Library.Scan
import Fakemote.Base

/-! `conf.c`: reading and writing entries of the system configuration. -/

namespace Fakemote

open Scan

def confSize : Nat := 0x4000

def confEnoent : Int := -0x6002
def confEtoobig : Int := -0x6003
def confEnotimpl : Int := -0x6005

inductive ConfType
  | bigarray
  | smallarray
  | byte
  | short
  | long
  | bool
  deriving DecidableEq, Repr

def confType (header : UInt8) : Option ConfType :=
  let type := header >>> (5 : UInt8)
  if type = 1 then some .bigarray
  else if type = 2 then some .smallarray
  else if type = 3 then some .byte
  else if type = 4 then some .short
  else if type = 5 then some .long
  else if type = 7 then some .bool
  else none

def confNameLength (header : UInt8) : Nat := (header &&& (0x0F : UInt8)).toNat + 1

/-- `memcmp` of `libc.c`: a block against the bytes of a buffer from `offset` on. It ends at the
first byte that differs, and the ones behind are not read. -/
def memcmp : (block buffer : List UInt8) → (offset : Nat) → Except Fault Int
  | [], _, _ => return 0
  | u1 :: block, buffer, offset => do
      let u2 ← load8 buffer offset
      if u1 ≠ u2 then return (u1.toNat : Int) - u2.toNat
      else memcmp block buffer (offset + 1)

/-- One round of the loop of `conf_find`: the entry that the directory has at this index, if it has
the name. A name is its bytes without the terminator. -/
def confLook (conf name : List UInt8) (index : Nat) : Except Fault (Option Nat) := do
  let entry := (← load16 conf (6 + 2 * index)).toNat
  let header ← load8 conf entry
  if name.length = confNameLength header then do
    let order ← memcmp name conf (entry + 1)
    return if order = 0 then some entry else none
  else return none

def confFind (conf name : List UInt8) : Except Fault (Option Nat) := do
  let count ← load16 conf 4
  scan (confLook conf name) count.toNat 0

def confGetLength (conf name : List UInt8) : Except Fault Int := do
  match ← confFind conf name with
  | none => return confEnoent
  | some entry => do
      match confType (← load8 conf entry) with
      | some .bigarray => do
          let high ← load8 conf (entry + name.length + 1)
          let low ← load8 conf (entry + name.length + 2)
          return ((high.toNat <<< 8) ||| low.toNat : Nat) + 1
      | some .smallarray => do
          let length ← load8 conf (entry + name.length + 1)
          return length.toNat + 1
      | some .byte => return 1
      | some .short => return 2
      | some .long => return 4
      | some .bool => return 1
      | none => return confEnotimpl

def confGet (conf name buffer : List UInt8) (length : UInt32) :
    Except Fault (Int × List UInt8) := do
  match ← confFind conf name with
  | none => return (confEnoent, buffer)
  | some entry => do
      let len ← confGetLength conf name
      if len < 0 then return (len, buffer)
      else if len > length.toNat then return (confEtoobig, buffer)
      else
        match confType (← load8 conf entry) with
        | some .bigarray => do
            let data ← loadBytes conf (entry + name.length + 3) len.toNat
            return (len, ← storeBytes buffer 0 data)
        | some .smallarray => do
            let data ← loadBytes conf (entry + name.length + 2) len.toNat
            return (len, ← storeBytes buffer 0 data)
        | some _ => do
            let cleared ← storeBytes buffer 0 (List.replicate length.toNat 0)
            let data ← loadBytes conf (entry + name.length + 1) len.toNat
            return (len, ← storeBytes cleared 0 data)
        | none => return (confEnotimpl, buffer)

def confSet (conf name buffer : List UInt8) (length : UInt32) :
    Except Fault (Int × List UInt8) := do
  match ← confFind conf name with
  | none => return (confEnoent, conf)
  | some entry => do
      let len ← confGetLength conf name
      if len < 0 then return (len, conf)
      else if len < length.toNat then return (confEtoobig, conf)
      else
        match confType (← load8 conf entry) with
        | some .bigarray => do
            let data ← loadBytes buffer 0 len.toNat
            return (len, ← storeBytes conf (entry + name.length + 3) data)
        | some .smallarray => do
            let data ← loadBytes buffer 0 len.toNat
            return (len, ← storeBytes conf (entry + name.length + 2) data)
        | some _ => do
            let data ← loadBytes buffer 0 len.toNat
            return (len, ← storeBytes conf (entry + name.length + 1) data)
        | none => return (confEnotimpl, conf)

end Fakemote
