import Fakemote.WiimoteCrypto

/-! The substitution tables that a key of the extension is made from. The search over the answers
ends at an index, and the key is made from the tables at this index and the next. -/

namespace Fakemote

def keyRand (keyData : List UInt8) : List UInt8 := (keyData.take 10).reverse

def keyBytes (keyData : List UInt8) : List UInt8 := ((keyData.drop 10).take 6).reverse

def keyIndex (keyData : List UInt8) : Nat := keyAnswerIndex (keyRand keyData) (keyBytes keyData)

/-- One of the answers gives the key bytes from the random bytes. -/
def AnswerMatches (keyData : List UInt8) : Prop :=
  ∃ ans ∈ ansTbl, generateKeyData (keyRand keyData) ans = keyBytes keyData

/-- Both tables are among those that exist. -/
def UsesExistingTables (keyData : List UInt8) : Prop :=
  keyIndex keyData < sboxes1stParty.length ∧ keyIndex keyData + 1 < sboxes1stParty.length

instance decidableUsesExistingTables (keyData : List UInt8) :
    Decidable (UsesExistingTables keyData) :=
  inferInstanceAs (Decidable (_ ∧ _))

theorem generateKey_eq (memory : Nat → UInt8) (keyData : List UInt8) :
    wiimoteCryptoGenerateKeyFromExtensionKeyData memory keyData =
      generateTables (keyRand keyData) (keyBytes keyData) (sbox1stParty memory (keyIndex keyData))
        (sbox1stParty memory (keyIndex keyData + 1)) := rfl

theorem keyIndex_lt_iff (keyData : List UInt8) :
    keyIndex keyData < ansTbl.length ↔ AnswerMatches keyData := by
  unfold keyIndex keyAnswerIndex AnswerMatches
  rw [List.findIdx_lt_length]
  simp only [beq_iff_eq]

theorem keyIndex_of_not_matches {keyData : List UInt8} (none : ¬ AnswerMatches keyData) :
    keyIndex keyData = 7 := by
  have most : keyIndex keyData ≤ ansTbl.length := List.findIdx_le_length
  have least := mt (keyIndex_lt_iff keyData).mp none
  have length : ansTbl.length = 7 := rfl
  omega

theorem usesExistingTables_iff (keyData : List UInt8) :
    UsesExistingTables keyData ↔ AnswerMatches keyData := by
  have answers : ansTbl.length = 7 := rfl
  have tables : sboxes1stParty.length = 8 := rfl
  rw [← keyIndex_lt_iff, UsesExistingTables]
  omega

theorem sbox1stParty_congr {idx : Nat} (exists_ : idx < sboxes1stParty.length)
    (memory other : Nat → UInt8) : sbox1stParty memory idx = sbox1stParty other idx := by
  funext j
  unfold sbox1stParty
  rw [List.getElem?_eq_getElem exists_]

theorem sbox1stParty_beyond (memory : Nat → UInt8) (j : Nat) :
    sbox1stParty memory 8 j = memory j := by
  change memory (256 * 0 + j) = memory j
  rw [Nat.mul_zero, Nat.zero_add]

theorem UsesExistingTables.key {keyData : List UInt8} (uses : UsesExistingTables keyData)
    (memory other : Nat → UInt8) :
    wiimoteCryptoGenerateKeyFromExtensionKeyData memory keyData =
      wiimoteCryptoGenerateKeyFromExtensionKeyData other keyData := by
  rw [generateKey_eq, generateKey_eq, sbox1stParty_congr uses.1 memory other,
    sbox1stParty_congr uses.2 memory other]

/-- Without a match the first byte of the key is read from behind the tables. -/
theorem key_of_not_matches {keyData : List UInt8} (none : ¬ AnswerMatches keyData)
    (memory : Nat → UInt8) :
    (wiimoteCryptoGenerateKeyFromExtensionKeyData memory keyData).ft.head? =
      some (sbox1stParty memory 7 ((keyBytes keyData).getD 4 0).toNat ^^^
        memory ((keyRand keyData).getD 3 0).toNat) := by
  rw [generateKey_eq, keyIndex_of_not_matches none]
  unfold generateTables
  rw [List.head?_cons, sbox1stParty_beyond]

theorem matches_of_key {keyData : List UInt8}
    (same : ∀ memory other, wiimoteCryptoGenerateKeyFromExtensionKeyData memory keyData =
      wiimoteCryptoGenerateKeyFromExtensionKeyData other keyData) : AnswerMatches keyData := by
  refine Classical.byContradiction fun none => ?_
  have equal := congrArg (fun key : WiimoteEncryptionKey => key.ft.head?)
    (same (fun _ => 0) (fun _ => 1))
  rw [key_of_not_matches none, key_of_not_matches none, Option.some.injEq,
    sbox1stParty_congr (by decide : 7 < sboxes1stParty.length) (fun _ => 0) (fun _ => 1)] at equal
  have bytes := (UInt8.xor_right_inj _).mp equal
  exact absurd bytes (by decide)

/-- The tables of a key exist, and the key does not depend on other memory, exactly when one of the
answers matches. -/
theorem key_tables_exist (keyData : List UInt8) :
    (UsesExistingTables keyData ↔ AnswerMatches keyData) ∧
    ((∀ memory other, wiimoteCryptoGenerateKeyFromExtensionKeyData memory keyData =
      wiimoteCryptoGenerateKeyFromExtensionKeyData other keyData) ↔ AnswerMatches keyData) := by
  refine ⟨usesExistingTables_iff keyData, matches_of_key, ?_⟩
  intro answered memory other
  exact ((usesExistingTables_iff keyData).mpr answered).key memory other

/-- Key data of zeros, as in registers that the host has not written. -/
theorem zero_key_data_reads_behind_tables : ¬ UsesExistingTables (List.replicate 16 0) := by
  decide +kernel

end Fakemote
