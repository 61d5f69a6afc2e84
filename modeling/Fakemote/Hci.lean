import Fakemote.Library.Bytes

/-! Constants and field encodings of `hci.h` and `l2cap.h`. The processor is big-endian and the
wire is little-endian, so `le16toh` and `htole16` swap the bytes of a loaded word. -/

namespace Fakemote

open Bytes

def le16toh (word : UInt16) : UInt16 := swap16 word

def htole16 (word : UInt16) : UInt16 := swap16 word

@[simp] theorem le16toh_htole16 (word : UInt16) : le16toh (htole16 word) = word :=
  swap16_swap16 word

@[simp] theorem htole16_le16toh (word : UInt16) : htole16 (le16toh word) = word :=
  swap16_swap16 word

/-- Bluetooth device address, in the byte order of the wire. -/
abbrev BdAddr := { bytes : List UInt8 // bytes.length = 6 }

def hciClassSize : Nat := 3
def hciKeySize : Nat := 16
def hciUnitNameSize : Nat := 248

def hciLinkAcl : UInt8 := 0x01
def hciEncryptionModeNone : UInt8 := 0x00
def hciPageScanEnable : UInt8 := 0x02
def hciRoleMaster : UInt8 := 0x00

def hciPacketStart : UInt16 := 0x2
def hciPoint2Point : UInt16 := 0x0

def hciConHandle (h : UInt16) : UInt16 := h &&& (0x0fff : UInt16)
def hciPbFlag (h : UInt16) : UInt16 := (h &&& (0x3000 : UInt16)) >>> (12 : UInt16)
def hciBcFlag (h : UInt16) : UInt16 := (h &&& (0xc000 : UInt16)) >>> (14 : UInt16)

def hciMkConHandle (h pb bc : UInt16) : UInt16 :=
  (h &&& (0x0fff : UInt16)) ||| ((pb &&& (3 : UInt16)) <<< (12 : UInt16)) |||
    ((bc &&& (3 : UInt16)) <<< (14 : UInt16))

theorem hciConHandle_toNat (word : UInt16) : (hciConHandle word).toNat = word.toNat % 4096 := by
  simp only [hciConHandle, UInt16.toNat_and]
  exact Nat.and_two_pow_sub_one_eq_mod word.toNat 12

theorem hciPbFlag_toNat (word : UInt16) : (hciPbFlag word).toNat = word.toNat / 4096 % 4 := by
  simp only [hciPbFlag, UInt16.toNat_shiftRight, UInt16.toNat_and, UInt16.toNat_ofNat]
  change (word.toNat &&& 3 <<< 12) >>> 12 = _
  rw [Nat.shiftRight_and_distrib, Nat.shiftLeft_shiftRight, Nat.shiftRight_eq_div_pow]
  exact Nat.and_two_pow_sub_one_eq_mod _ 2

theorem hciBcFlag_toNat (word : UInt16) : (hciBcFlag word).toNat = word.toNat / 16384 := by
  have bound := word.toNat_lt
  simp only [hciBcFlag, UInt16.toNat_shiftRight, UInt16.toNat_and, UInt16.toNat_ofNat]
  change (word.toNat &&& 3 <<< 14) >>> 14 = _
  rw [Nat.shiftRight_and_distrib, Nat.shiftLeft_shiftRight, Nat.shiftRight_eq_div_pow]
  rw [show (3 : Nat) = 2 ^ 2 - 1 from rfl, Nat.and_two_pow_sub_one_eq_mod]
  omega

theorem hciMkConHandle_toNat (h pb bc : UInt16) : (hciMkConHandle h pb bc).toNat =
    16384 * (bc.toNat % 4) + 4096 * (pb.toNat % 4) + h.toNat % 4096 := by
  have low : h.toNat &&& 4095 = h.toNat % 4096 := Nat.and_two_pow_sub_one_eq_mod _ 12
  have flag (x : UInt16) : x.toNat &&& 3 = x.toNat % 4 := Nat.and_two_pow_sub_one_eq_mod _ 2
  have middle : 4096 * (pb.toNat % 4) ||| h.toNat % 4096 = 4096 * (pb.toNat % 4) + h.toNat % 4096 :=
    (Nat.two_pow_add_eq_or_of_lt (Nat.mod_lt h.toNat (by decide : 0 < 2 ^ 12)) _).symm
  have high : 16384 * (bc.toNat % 4) ||| (4096 * (pb.toNat % 4) + h.toNat % 4096) =
      16384 * (bc.toNat % 4) + (4096 * (pb.toNat % 4) + h.toNat % 4096) :=
    (Nat.two_pow_add_eq_or_of_lt (show _ < 2 ^ 14 by omega) _).symm
  have second : pb.toNat % 4 * 4096 % 65536 = 4096 * (pb.toNat % 4) := by
    rw [Nat.mul_comm, Nat.mod_eq_of_lt (by omega)]
  have third : bc.toNat % 4 * 16384 % 65536 = 16384 * (bc.toNat % 4) := by
    rw [Nat.mul_comm, Nat.mod_eq_of_lt (by omega)]
  simp only [hciMkConHandle, UInt16.toNat_or, UInt16.toNat_shiftLeft, UInt16.toNat_and,
    UInt16.toNat_ofNat, low, flag, Nat.shiftLeft_eq]
  change h.toNat % 4096 ||| pb.toNat % 4 * 4096 % 65536 ||| bc.toNat % 4 * 16384 % 65536 = _
  rw [second, third, Nat.or_comm (h.toNat % 4096), middle, Nat.or_comm, high, Nat.add_assoc]

@[simp] theorem hciMkConHandle_fields (word : UInt16) :
    hciMkConHandle (hciConHandle word) (hciPbFlag word) (hciBcFlag word) = word := by
  have bound := word.toNat_lt
  apply UInt16.toNat_inj.mp
  rw [hciMkConHandle_toNat, hciConHandle_toNat, hciPbFlag_toNat, hciBcFlag_toNat]
  omega

theorem hciConHandle_mk {h : UInt16} (narrow : h.toNat < 4096) (pb bc : UInt16) :
    hciConHandle (hciMkConHandle h pb bc) = h := by
  apply UInt16.toNat_inj.mp
  rw [hciConHandle_toNat, hciMkConHandle_toNat]
  omega

theorem hciPbFlag_mk (h : UInt16) {pb : UInt16} (narrow : pb.toNat < 4) (bc : UInt16) :
    hciPbFlag (hciMkConHandle h pb bc) = pb := by
  apply UInt16.toNat_inj.mp
  rw [hciPbFlag_toNat, hciMkConHandle_toNat]
  omega

theorem hciBcFlag_mk (h pb : UInt16) {bc : UInt16} (narrow : bc.toNat < 4) :
    hciBcFlag (hciMkConHandle h pb bc) = bc := by
  apply UInt16.toNat_inj.mp
  rw [hciBcFlag_toNat, hciMkConHandle_toNat]
  omega

-- Sizes of the packet headers; the parameters follow the header.

def hciCmdHdrSize : Nat := 3
def hciAclDataHdrSize : Nat := 4
def hciEventHdrSize : Nat := 2

def hciCmdCreateCon : UInt16 := 0x0405
def hciCmdDisconnect : UInt16 := 0x0406
def hciCmdAddScoCon : UInt16 := 0x0407
def hciCmdAcceptCon : UInt16 := 0x0409
def hciCmdRejectCon : UInt16 := 0x040A
def hciCmdChangeConPacketType : UInt16 := 0x040F
def hciCmdAuthReq : UInt16 := 0x0411
def hciCmdSetConEncryption : UInt16 := 0x0413
def hciCmdChangeConLinkKey : UInt16 := 0x0415
def hciCmdRemoteNameReq : UInt16 := 0x0419
def hciCmdReadRemoteFeatures : UInt16 := 0x041B
def hciCmdReadRemoteExtendedFeatures : UInt16 := 0x041C
def hciCmdReadRemoteVerInfo : UInt16 := 0x041D
def hciCmdReadClockOffset : UInt16 := 0x041F
def hciCmdReadLmpHandle : UInt16 := 0x0420
def hciCmdSetupScoCon : UInt16 := 0x0428
def hciCmdHoldMode : UInt16 := 0x0801
def hciCmdSniffMode : UInt16 := 0x0803
def hciCmdExitSniffMode : UInt16 := 0x0804
def hciCmdParkMode : UInt16 := 0x0805
def hciCmdExitParkMode : UInt16 := 0x0806
def hciCmdQosSetup : UInt16 := 0x0807
def hciCmdRoleDiscovery : UInt16 := 0x0809
def hciCmdReadLinkPolicySettings : UInt16 := 0x080C
def hciCmdWriteLinkPolicySettings : UInt16 := 0x080D
def hciCmdFlowSpecification : UInt16 := 0x0810
def hciCmdSniffSubrating : UInt16 := 0x0811
def hciCmdReset : UInt16 := 0x0C03
def hciCmdFlush : UInt16 := 0x0C08
def hciCmdReadStoredLinkKey : UInt16 := 0x0C0D
def hciCmdWriteScanEnable : UInt16 := 0x0C1A
def hciCmdWriteUnitClass : UInt16 := 0x0C24
def hciCmdReadAutoFlushTimeout : UInt16 := 0x0C27
def hciCmdWriteAutoFlushTimeout : UInt16 := 0x0C28
def hciCmdReadXmitLevel : UInt16 := 0x0C2D
def hciCmdHostNumComplPkts : UInt16 := 0x0C35
def hciCmdReadLinkSupervisionTimeout : UInt16 := 0x0C36
def hciCmdWriteLinkSupervisionTimeout : UInt16 := 0x0C37
def hciCmdRefreshEncryptionKey : UInt16 := 0x0C53
def hciCmdEnhancedFlush : UInt16 := 0x0C5F
def hciCmdReadFailedContactCntr : UInt16 := 0x1401
def hciCmdResetFailedContactCntr : UInt16 := 0x1402
def hciCmdReadLinkQuality : UInt16 := 0x1403
def hciCmdReadRssi : UInt16 := 0x1405
def hciCmdReadAfhChannelMap : UInt16 := 0x1406
def hciCmdReadClock : UInt16 := 0x1407

def hciEventConCompl : UInt8 := 0x03
def hciEventConReq : UInt8 := 0x04
def hciEventDisconCompl : UInt8 := 0x05
def hciEventAuthCompl : UInt8 := 0x06
def hciEventRemoteNameReqCompl : UInt8 := 0x07
def hciEventEncryptionChange : UInt8 := 0x08
def hciEventChangeConLinkKeyCompl : UInt8 := 0x09
def hciEventMasterLinkKeyCompl : UInt8 := 0x0a
def hciEventReadRemoteFeaturesCompl : UInt8 := 0x0b
def hciEventReadRemoteVerInfoCompl : UInt8 := 0x0c
def hciEventQosSetupCompl : UInt8 := 0x0d
def hciEventCommandCompl : UInt8 := 0x0e
def hciEventCommandStatus : UInt8 := 0x0f
def hciEventFlushOccur : UInt8 := 0x11
def hciEventRoleChange : UInt8 := 0x12
def hciEventNumComplPkts : UInt8 := 0x13
def hciEventModeChange : UInt8 := 0x14
def hciEventReturnLinkKeys : UInt8 := 0x15
def hciEventMaxSlotChange : UInt8 := 0x1b
def hciEventReadClockOffsetCompl : UInt8 := 0x1c
def hciEventConPktTypeChanged : UInt8 := 0x1d
def hciEventQosViolation : UInt8 := 0x1e
def hciEventFlowSpecificationCompl : UInt8 := 0x21
def hciEventReadRemoteExtendedFeatures : UInt8 := 0x23
def hciEventScoConCompl : UInt8 := 0x2c
def hciEventScoConChanged : UInt8 := 0x2d
def hciEventSniffSubrating : UInt8 := 0x2e
def hciEventEncryptionKeyRefresh : UInt8 := 0x30
def hciEventLinkSupervisionToChanged : UInt8 := 0x38
def hciEventEnhancedFlushCompl : UInt8 := 0x39

def l2capNullCid : UInt16 := 0x0000
def l2capSignalCid : UInt16 := 0x0001

def l2capMtuDefault : UInt16 := 672
def l2capFlushTimoDefault : UInt16 := 0xffff

def l2capPsmHidCntl : UInt16 := 0x0011
def l2capPsmHidIntr : UInt16 := 0x0013

def l2capSuccess : UInt16 := 0x0000
def l2capPsmNotSupported : UInt16 := 0x0002
def l2capNoInfo : UInt16 := 0x0000

def l2capConnectReq : UInt8 := 0x02
def l2capConnectRsp : UInt8 := 0x03
def l2capConfigReq : UInt8 := 0x04
def l2capConfigRsp : UInt8 := 0x05
def l2capDisconnectReq : UInt8 := 0x06
def l2capDisconnectRsp : UInt8 := 0x07

def l2capOptMtu : UInt8 := 0x01
def l2capOptMtuSize : UInt8 := 2
def l2capOptFlushTimo : UInt8 := 0x02
def l2capOptFlushTimoSize : UInt8 := 2

def l2capHdrSize : Nat := 4
def l2capCmdHdrSize : Nat := 4
def l2capCfgReqCpSize : Nat := 4
def l2capCfgRspCpSize : Nat := 6
def l2capCfgOptSize : Nat := 2

end Fakemote
