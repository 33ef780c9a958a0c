import RiskManagement.Library.Word64
import RiskManagement.Minieth.TxBytes

/-!
# The chain in a legacy signature

A legacy transaction tells its chain by the `v` of its signature alone.  The
sum is taken in 64 bits, so it is the right number only while it fits.
-/

namespace RiskManagement

/-- The number that tells the chain and the recovery id. -/
def legacyV (chainId recoveryId : Nat) : Nat :=
  2 * chainId + 35 + recoveryId

/-- The chain that a verifier takes from `v`. -/
def chainIdOfV (v : Nat) : Nat := (v - 35) / 2

theorem chainIdOfV_legacyV {chainId recoveryId : Nat}
    (isRecoveryId : recoveryId = 0 ∨ recoveryId = 1) :
    chainIdOfV (legacyV chainId recoveryId) = chainId := by
  rw [chainIdOfV, legacyV]
  omega

namespace EthereumSignature

/-- `chain_id * 2 + 35 + v`, which is `none` where an operation overflows. -/
def checkedV (chainId v : UInt64) : Option UInt64 := do
  let twice ← Word64.checkedMul chainId 2
  let base ← Word64.checkedAdd twice 35
  Word64.checkedAdd base v

theorem checkedV_eq_some_iff {chainId v sum : UInt64} :
    checkedV chainId v = some sum ↔
      legacyV chainId.toNat v.toNat = sum.toNat := by
  have two : (2 : UInt64).toNat = 2 := rfl
  have offset : (35 : UInt64).toNat = 35 := rfl
  have bound := sum.toNat_lt
  simp only [checkedV, Option.bind_eq_bind, Option.bind_eq_some_iff,
    Word64.checkedMul_eq_some_iff, Word64.checkedAdd_eq_some_iff, two, offset,
    legacyV]
  constructor
  · intro ⟨twice, isTwice, base, isBase, isSum⟩
    omega
  · intro isSum
    have twiceFits : chainId.toNat * 2 < 2 ^ 64 := by omega
    have baseFits : chainId.toNat * 2 + 35 < 2 ^ 64 := by omega
    have twice := UInt64.toNat_ofNat_of_lt' twiceFits
    have base := UInt64.toNat_ofNat_of_lt' baseFits
    refine ⟨.ofNat (chainId.toNat * 2), twice.symm,
      .ofNat (chainId.toNat * 2 + 35), ?_, ?_⟩
    · rw [twice]
      exact base.symm
    · rw [base]
      omega

/-- What is written for a recovery id is the sum modulo `2 ^ 64`. -/
theorem toLegacy_v {signature : EthereumSignature} {recoveryId : Nat}
    (isRecoveryId : recoveryId = 0 ∨ recoveryId = 1)
    (signed : signature.v.toNat = recoveryId) (chainId : UInt64) :
    (signature.toLegacy chainId).v.toNat =
      legacyV chainId.toNat recoveryId % 2 ^ 64 := by
  have small : recoveryId < 2 ^ 64 := by omega
  have two : (2 : UInt64).toNat = 2 := rfl
  have offset : (35 : UInt64).toNat = 35 := rfl
  have fits (word : UInt64) : (U256.ofUint word.toNat).toNat = word.toNat := by
    have bound := word.toNat_lt
    exact U256.ofUint_toNat (by omega)
  rw [toLegacy, signed, if_pos isRecoveryId, fits, UInt64.toNat_add,
    UInt64.toNat_add, UInt64.toNat_mul, UInt64.toNat_ofNat_of_lt' small, two,
    offset, legacyV]
  omega

theorem toLegacy_r (signature : EthereumSignature) (chainId : UInt64) :
    (signature.toLegacy chainId).r = signature.r := by
  rw [toLegacy]
  split
  · rfl
  · rfl

theorem toLegacy_s (signature : EthereumSignature) (chainId : UInt64) :
    (signature.toLegacy chainId).s = signature.s := by
  rw [toLegacy]
  split
  · rfl
  · rfl

end EthereumSignature

theorem checkedV_isSome_iff {chainId v : UInt64} :
    (EthereumSignature.checkedV chainId v).isSome ↔
      legacyV chainId.toNat v.toNat < 2 ^ 64 := by
  rw [Option.isSome_iff_exists]
  constructor
  · intro ⟨sum, isSum⟩
    rw [EthereumSignature.checkedV_eq_some_iff] at isSum
    rw [isSum]
    exact sum.toNat_lt
  · intro fits
    refine ⟨.ofNat (legacyV chainId.toNat v.toNat), ?_⟩
    rw [EthereumSignature.checkedV_eq_some_iff]
    exact (UInt64.toNat_ofNat_of_lt' fits).symm

namespace LegacyTransaction

/-- The serialized bytes have the fields of the request, the signature as it
is and a `v` that names the chain of the request. -/
def CarriesChain (self : LegacyTransaction) (recoveryId : Nat)
    (serialized : List UInt8) : Prop :=
  ∃ v, Rlp.decode serialized = some (.list (self.req.fields ++
      [.number v, .number self.sig.r.toNat, .number self.sig.s.toNat])) ∧
    v = legacyV self.req.chainId.toNat recoveryId ∧
    chainIdOfV v = self.req.chainId.toNat

/-- The fields that are hashed are serialized, under a signature that names
the chain that is hashed, and no operation overflows on the way. -/
structure NamesChain (transaction : LegacyTransaction) (keccak : Keccak)
    (recoveryId : Nat) : Prop where
  hashes : ∃ list,
    transaction.req.toSigningHash keccak = keccak256 keccak list ∧
      SplitsInto list (transaction.req.fields ++
        [.number transaction.req.chainId.toNat, .number 0, .number 0])
  carries : transaction.CarriesChain recoveryId transaction.toRlpBytes
  noOverflow : (EthereumSignature.checkedV transaction.req.chainId
    (.ofNat recoveryId)).isSome

theorem decode_toRlpBytes_v {self : LegacyTransaction} {recoveryId : Nat}
    (isRecoveryId : recoveryId = 0 ∨ recoveryId = 1)
    (signed : self.sig.v.toNat = recoveryId)
    (fits : self.toRlpBytes.length < 2 ^ 64) :
    Rlp.decode self.toRlpBytes = some (.list (self.req.fields ++
      [.number (legacyV self.req.chainId.toNat recoveryId % 2 ^ 64),
        .number self.sig.r.toNat, .number self.sig.s.toNat])) := by
  rw [self.toRlpBytes_splits.splits fits, EthereumSignature.fields,
    EthereumSignature.toLegacy_v isRecoveryId signed,
    EthereumSignature.toLegacy_r, EthereumSignature.toLegacy_s]

theorem carriesChain_iff {self : LegacyTransaction} {recoveryId : Nat}
    (isRecoveryId : recoveryId = 0 ∨ recoveryId = 1)
    (signed : self.sig.v.toNat = recoveryId)
    (fits : self.toRlpBytes.length < 2 ^ 64) :
    self.CarriesChain recoveryId self.toRlpBytes ↔
      legacyV self.req.chainId.toNat recoveryId < 2 ^ 64 := by
  have decoded := decode_toRlpBytes_v isRecoveryId signed fits
  constructor
  · rintro ⟨v, carried, isV, _⟩
    rw [decoded, Option.some.injEq, Rlp.Item.list.injEq,
      List.append_cancel_left_eq, List.cons.injEq] at carried
    have sameNumber := Rlp.Item.number_injective carried.1
    rw [isV] at sameNumber
    rw [← sameNumber]
    exact Nat.mod_lt _ (Nat.two_pow_pos 64)
  · intro small
    rw [Nat.mod_eq_of_lt small] at decoded
    exact ⟨_, decoded, rfl, chainIdOfV_legacyV isRecoveryId⟩

end LegacyTransaction

/-- A signature names the chain that was signed exactly when its `v` fits 64
bits. -/
theorem legacy_signature_names_chain_iff (keccak : Keccak)
    (self : LegacyTransaction) (recoveryId : Nat)
    (isRecoveryId : recoveryId = 0 ∨ recoveryId = 1)
    (signed : self.sig.v.toNat = recoveryId)
    (fits : self.toRlpBytes.length < 2 ^ 64) :
    self.NamesChain keccak recoveryId ↔
      legacyV self.req.chainId.toNat recoveryId < 2 ^ 64 := by
  have carries := LegacyTransaction.carriesChain_iff isRecoveryId signed fits
  constructor
  · intro names
    exact carries.mp names.carries
  · intro small
    refine ⟨self.req.toSigningHash_splits keccak, carries.mpr small, ?_⟩
    have isWord : recoveryId < 2 ^ 64 := by omega
    rw [checkedV_isSome_iff, UInt64.toNat_ofNat_of_lt' isWord]
    exact small

/-- A transfer of one ether, signed with the recovery id 1. -/
def sampleLegacyTransfer (chainId : UInt64) : LegacyTransaction where
  req := {
    chainId
    nonce := .ofUint 9
    gasPrice := .ofUint 20000000000
    gas := .ofUint 21000
    toAddress := SizedBytes.replicate 20 0x35
    value := .ofUint (10 ^ 18)
    data := .empty }
  sig := { v := .ofUint 1, r := .ofUint (2 ^ 127), s := .ofUint 77 }

theorem legacy_signature_names_chain_mainnet :
    (sampleLegacyTransfer 1).NamesChain lengthHash 1 :=
  (legacy_signature_names_chain_iff lengthHash (sampleLegacyTransfer 1) 1
    (.inr rfl) (by decide +kernel) (by decide +kernel)).mpr (by decide)

/-- The transfer for chain `2 ^ 63` is sent with the `v` of chain 0. -/
theorem legacy_signature_names_other_chain :
    ¬ (sampleLegacyTransfer (2 ^ 63)).NamesChain lengthHash 1 ∧
      Rlp.decode (sampleLegacyTransfer (2 ^ 63)).toRlpBytes = some (.list
        ((sampleLegacyTransfer (2 ^ 63)).req.fields ++
          [.number 36, .number (2 ^ 127), .number 77])) ∧
      chainIdOfV 36 = 0 ∧
      EthereumSignature.checkedV (2 ^ 63) 1 = none := by
  have fits : (sampleLegacyTransfer (2 ^ 63)).toRlpBytes.length < 2 ^ 64 := by
    decide +kernel
  have signed : (sampleLegacyTransfer (2 ^ 63)).sig.v.toNat = 1 := by
    decide +kernel
  have wraps : legacyV (sampleLegacyTransfer (2 ^ 63)).req.chainId.toNat 1 =
      2 ^ 64 + 36 := by
    decide +kernel
  have r : (sampleLegacyTransfer (2 ^ 63)).sig.r.toNat = 2 ^ 127 := by
    decide +kernel
  have s : (sampleLegacyTransfer (2 ^ 63)).sig.s.toNat = 77 := by
    decide +kernel
  refine ⟨?_, ?_, by decide, by decide +kernel⟩
  · intro names
    have small := (LegacyTransaction.carriesChain_iff (.inr rfl) signed
      fits).mp names.carries
    rw [wraps] at small
    exact absurd small (by decide)
  · have decoded :=
      LegacyTransaction.decode_toRlpBytes_v (.inr rfl) signed fits
    rw [wraps, r, s] at decoded
    exact decoded

end RiskManagement
