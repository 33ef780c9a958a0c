import RiskManagement.Afn.EvmCommonTypes
import RiskManagement.Afn.Hashable
import RiskManagement.Afn.Merkle

/-!
# Messages of version 1.2 on-ramps
-/

namespace RiskManagement

/-- A message, with its fields in the order of the event. -/
structure Evm2EvmMessageV1_2 where
  sourceChainSelector : ChainSelector
  sender : Address
  receiver : Address
  sequenceNumber : UInt64
  gasLimit : U256
  strict : Bool
  nonce : UInt64
  feeToken : Address
  feeTokenAmount : U256
  data : Bytes
  tokenAmounts : RustVec EVMTokenAmount
  sourceTokenData : RustVec Bytes
  messageId : Bytes32
deriving DecidableEq

/-- An on-ramp of version 1.2 has taken a message. -/
structure CcipSendRequestedEventV1_2 where
  message : Evm2EvmMessageV1_2
deriving DecidableEq

namespace Evm2EvmMessageV1_2

/-- The tuple of the fields of fixed size. -/
def fixedComponents (self : Evm2EvmMessageV1_2) : List Value :=
  [into self.sender,
    into self.receiver,
    into self.sequenceNumber,
    into self.gasLimit,
    into self.strict,
    into self.nonce,
    into self.feeToken,
    into self.feeTokenAmount]

/-- The tuple that is encoded for the message hash. -/
def leafComponents (metadataHash fixedHash dataHash tokenAmountsHash
    sourceTokenDataHash : Bytes32) : List Value :=
  [into leafDomainSeparator,
    into metadataHash,
    into fixedHash,
    into dataHash,
    into tokenAmountsHash,
    into sourceTokenDataHash]

/-- The hash that an on-ramp of version 1.2 gives a message for its id. -/
def hash (keccak : Keccak) (self : Evm2EvmMessageV1_2)
    (metadata : MessageMetadata) : Hashed Bytes32 := do
  let metadataHash ← metadataHash keccak "EVM2EVMMessageHashV2" metadata
  let fixedHash ← keccak256 keccak (abiEncodeTuple self.fixedComponents)
  let dataHash ← keccak256 keccak self.data.data
  let tokenAmountsHash ← keccak256 keccak (abiEncode self.tokenAmounts)
  let sourceTokenDataHash ←
    keccak256 keccak (abiEncode self.sourceTokenData)
  keccak256 keccak (abiEncodeTuple (leafComponents metadataHash fixedHash
    dataHash tokenAmountsHash sourceTokenDataHash))

instance : MessageHash Evm2EvmMessageV1_2 := ⟨hash⟩

/-- Equal in all fields that the hash is meant to cover. -/
def SameContent (left right : Evm2EvmMessageV1_2) : Prop :=
  left = { right with
    sourceChainSelector := left.sourceChainSelector
    messageId := left.messageId }

/-! ### What the hash commits to -/

/-- The string that is hashed last. -/
def leafInput (keccak : Keccak) (self : Evm2EvmMessageV1_2)
    (metadata : MessageMetadata) : List UInt8 :=
  abiEncodeTuple (leafComponents
    (metadataHash keccak "EVM2EVMMessageHashV2" metadata).value
    (keccak (abiEncodeTuple self.fixedComponents)) (keccak self.data.data)
    (keccak (abiEncode self.tokenAmounts))
    (keccak (abiEncode self.sourceTokenData)))

theorem hash_value (keccak : Keccak) (self : Evm2EvmMessageV1_2)
    (metadata : MessageMetadata) :
    (self.hash keccak metadata).value =
      keccak (self.leafInput keccak metadata) := rfl

theorem hash_inputs (keccak : Keccak) (self : Evm2EvmMessageV1_2)
    (metadata : MessageMetadata) :
    (self.hash keccak metadata).inputs =
      (metadataHash keccak "EVM2EVMMessageHashV2" metadata).inputs ++
        [abiEncodeTuple self.fixedComponents, self.data.data,
          abiEncode self.tokenAmounts, abiEncode self.sourceTokenData,
          self.leafInput keccak metadata] := rfl

theorem fixedComponents_hasValues (self : Evm2EvmMessageV1_2) :
    AbiType.HasValues
      [.address, .address, .u64, .u256, .bool, .u64, .address, .u256]
      self.fixedComponents :=
  .into _ (.into _ (.into _ (.into _ (.into _ (.into _ (.into _ (.into _
    .nil)))))))

theorem leafComponents_hasValues (metadataHash fixedHash dataHash
    tokenAmountsHash sourceTokenDataHash : Bytes32) :
    AbiType.HasValues
      [.bytes32, .bytes32, .bytes32, .bytes32, .bytes32, .bytes32]
      (leafComponents metadataHash fixedHash dataHash tokenAmountsHash
        sourceTokenDataHash) :=
  .into _ (.into _ (.into _ (.into _ (.into _ (.into _ .nil)))))

theorem leafInput_length (keccak : Keccak) (self : Evm2EvmMessageV1_2)
    (metadata : MessageMetadata) :
    (self.leafInput keccak metadata).length = 192 := by
  apply length_abiEncodeTuple (leafComponents_hasValues _ _ _ _ _)
  decide

theorem sameContent_of_fixedComponents {left right : Evm2EvmMessageV1_2}
    (same : left.fixedComponents = right.fixedComponents)
    (sameData : left.data = right.data)
    (sameTokenAmounts : left.tokenAmounts = right.tokenAmounts)
    (sameSourceTokenData : left.sourceTokenData = right.sourceTokenData) :
    left.SameContent right := by
  simp only [fixedComponents, into, List.cons.injEq, Value.u64.injEq,
    Value.address.injEq, Value.u256.injEq, Value.bool.injEq,
    and_true] at same
  cases left
  cases right
  simp_all [SameContent]

/-- Without a collision the hash determines the message and the metadata. -/
theorem hash_injective {keccak : Keccak} {left right : Evm2EvmMessageV1_2}
    {leftMetadata rightMetadata : MessageMetadata}
    {inputs : List (List UInt8)}
    (free : ¬HashInputs.Collision keccak inputs)
    (leftHashed : (left.hash keccak leftMetadata).inputs ⊆ inputs)
    (rightHashed : (right.hash keccak rightMetadata).inputs ⊆ inputs)
    (same : (left.hash keccak leftMetadata).value =
      (right.hash keccak rightMetadata).value) :
    left.SameContent right ∧ leftMetadata = rightMetadata := by
  simp only [hash_inputs, List.append_subset, List.cons_subset]
    at leftHashed rightHashed
  obtain ⟨leftMetadataIn, leftFixedIn, leftDataIn, leftTokensIn,
    leftTokenDataIn, leftLeafIn, _⟩ := leftHashed
  obtain ⟨rightMetadataIn, rightFixedIn, rightDataIn, rightTokensIn,
    rightTokenDataIn, rightLeafIn, _⟩ := rightHashed
  have sameLeaf :=
    HashInputs.eq_of_not_collision free leftLeafIn rightLeafIn same
  have sameHashes := abiEncodeTuple_injective
    (leafComponents_hasValues _ _ _ _ _)
    (leafComponents_hasValues _ _ _ _ _) sameLeaf
  simp only [leafComponents, into, List.cons.injEq, Value.bytes32.injEq,
    and_true, true_and] at sameHashes
  obtain ⟨sameMetadataHash, sameFixedHash, sameDataHash, sameTokensHash,
    sameTokenDataHash⟩ := sameHashes
  constructor
  · apply sameContent_of_fixedComponents
    · apply abiEncodeTuple_injective left.fixedComponents_hasValues
        right.fixedComponents_hasValues
      exact HashInputs.eq_of_not_collision free leftFixedIn rightFixedIn
        sameFixedHash
    · apply Bytes.ext
      exact HashInputs.eq_of_not_collision free leftDataIn rightDataIn
        sameDataHash
    · apply abiEncode_injective
      exact HashInputs.eq_of_not_collision free leftTokensIn rightTokensIn
        sameTokensHash
    · apply abiEncode_injective
      exact HashInputs.eq_of_not_collision free leftTokenDataIn
        rightTokenDataIn sameTokenDataHash
  · exact metadataHash_injective free leftMetadataIn rightMetadataIn
      sameMetadataHash

end Evm2EvmMessageV1_2

end RiskManagement
