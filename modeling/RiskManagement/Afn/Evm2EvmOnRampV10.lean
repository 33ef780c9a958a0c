import RiskManagement.Afn.EvmCommonTypes
import RiskManagement.Afn.Hashable
import RiskManagement.Afn.Merkle

/-!
# Messages of version 1.0 on-ramps
-/

namespace RiskManagement

/-- A message, with its fields in the order of the event. -/
structure Evm2EvmMessageV1_0 where
  sourceChainSelector : ChainSelector
  sequenceNumber : UInt64
  feeTokenAmount : U256
  sender : Address
  nonce : UInt64
  gasLimit : U256
  strict : Bool
  receiver : Address
  data : Bytes
  tokenAmounts : RustVec EVMTokenAmount
  feeToken : Address
  messageId : Bytes32
deriving DecidableEq

/-- An on-ramp of version 1.0 has taken a message. -/
structure CcipSendRequestedEventV1_0 where
  message : Evm2EvmMessageV1_0
deriving DecidableEq

namespace Evm2EvmMessageV1_0

/-- The tuple that is encoded for the message hash. -/
def leafComponents (self : Evm2EvmMessageV1_0)
    (metadataHash dataHash tokenAmountsHash : Bytes32) : List Value :=
  [into leafDomainSeparator,
    into metadataHash,
    into self.sequenceNumber,
    into self.nonce,
    into self.sender,
    into self.receiver,
    into dataHash,
    into tokenAmountsHash,
    into self.gasLimit,
    into self.strict,
    into self.feeToken,
    into self.feeTokenAmount]

/-- The hash that an on-ramp of version 1.0 gives a message for its id. -/
def hash (keccak : Keccak) (self : Evm2EvmMessageV1_0)
    (metadata : MessageMetadata) : Hashed Bytes32 := do
  let metadataHash ← metadataHash keccak "EVM2EVMMessageEvent" metadata
  let dataHash ← keccak256 keccak self.data.data
  let tokenAmountsHash ← keccak256 keccak (abiEncode self.tokenAmounts)
  keccak256 keccak (abiEncodeTuple
    (self.leafComponents metadataHash dataHash tokenAmountsHash))

instance : MessageHash Evm2EvmMessageV1_0 := ⟨hash⟩

/-- Equal in all fields that the hash is meant to cover. -/
def SameContent (left right : Evm2EvmMessageV1_0) : Prop :=
  left = { right with
    sourceChainSelector := left.sourceChainSelector
    messageId := left.messageId }

/-! ### What the hash commits to -/

/-- The string that is hashed last. -/
def leafInput (keccak : Keccak) (self : Evm2EvmMessageV1_0)
    (metadata : MessageMetadata) : List UInt8 :=
  abiEncodeTuple (self.leafComponents
    (metadataHash keccak "EVM2EVMMessageEvent" metadata).value
    (keccak self.data.data) (keccak (abiEncode self.tokenAmounts)))

theorem hash_value (keccak : Keccak) (self : Evm2EvmMessageV1_0)
    (metadata : MessageMetadata) :
    (self.hash keccak metadata).value =
      keccak (self.leafInput keccak metadata) := rfl

theorem hash_inputs (keccak : Keccak) (self : Evm2EvmMessageV1_0)
    (metadata : MessageMetadata) :
    (self.hash keccak metadata).inputs =
      (metadataHash keccak "EVM2EVMMessageEvent" metadata).inputs ++
        [self.data.data, abiEncode self.tokenAmounts,
          self.leafInput keccak metadata] := rfl

theorem leafComponents_hasValues (self : Evm2EvmMessageV1_0)
    (metadataHash dataHash tokenAmountsHash : Bytes32) :
    AbiType.HasValues
      [.bytes32, .bytes32, .u64, .u64, .address, .address, .bytes32,
        .bytes32, .u256, .bool, .address, .u256]
      (self.leafComponents metadataHash dataHash tokenAmountsHash) :=
  .into _ (.into _ (.into _ (.into _ (.into _ (.into _ (.into _ (.into _
    (.into _ (.into _ (.into _ (.into _ .nil)))))))))))

theorem leafInput_length (keccak : Keccak) (self : Evm2EvmMessageV1_0)
    (metadata : MessageMetadata) :
    (self.leafInput keccak metadata).length = 384 := by
  apply length_abiEncodeTuple (self.leafComponents_hasValues _ _ _)
  decide

theorem leafComponents_injective {left right : Evm2EvmMessageV1_0}
    {leftMetadata rightMetadata leftData rightData leftTokens rightTokens :
      Bytes32}
    (same : left.leafComponents leftMetadata leftData leftTokens =
      right.leafComponents rightMetadata rightData rightTokens) :
    leftMetadata = rightMetadata ∧ leftData = rightData ∧
      leftTokens = rightTokens ∧
      (left.data = right.data → left.tokenAmounts = right.tokenAmounts →
        left.SameContent right) := by
  simp only [leafComponents, into, List.cons.injEq, Value.bytes32.injEq,
    Value.u64.injEq, Value.address.injEq, Value.u256.injEq,
    Value.bool.injEq, and_true, true_and] at same
  obtain ⟨sameMetadata, sameSequenceNumber, sameNonce, sameSender,
    sameReceiver, sameData, sameTokens, sameGasLimit, sameStrict,
    sameFeeToken, sameFeeTokenAmount⟩ := same
  refine ⟨sameMetadata, sameData, sameTokens, ?_⟩
  intro sameMessageData sameTokenAmounts
  cases left
  cases right
  simp_all [SameContent]

/-- Without a collision the hash determines the message and the metadata. -/
theorem hash_injective {keccak : Keccak} {left right : Evm2EvmMessageV1_0}
    {leftMetadata rightMetadata : MessageMetadata}
    {inputs : List (List UInt8)}
    (free : ¬HashInputs.Collision keccak inputs)
    (leftHashed : (left.hash keccak leftMetadata).inputs ⊆ inputs)
    (rightHashed : (right.hash keccak rightMetadata).inputs ⊆ inputs)
    (same : (left.hash keccak leftMetadata).value =
      (right.hash keccak rightMetadata).value) :
    left.SameContent right ∧ leftMetadata = rightMetadata := by
  simp only [hash_inputs, List.append_subset, List.cons_subset]
    at leftHashed rightHashed
  obtain ⟨leftMetadataIn, leftDataIn, leftTokensIn, leftLeafIn, _⟩ :=
    leftHashed
  obtain ⟨rightMetadataIn, rightDataIn, rightTokensIn, rightLeafIn, _⟩ :=
    rightHashed
  have sameLeaf :=
    HashInputs.eq_of_not_collision free leftLeafIn rightLeafIn same
  obtain ⟨sameMetadataHash, sameDataHash, sameTokensHash, content⟩ :=
    leafComponents_injective (abiEncodeTuple_injective
      (left.leafComponents_hasValues _ _ _)
      (right.leafComponents_hasValues _ _ _) sameLeaf)
  constructor
  · apply content
    · apply Bytes.ext
      exact HashInputs.eq_of_not_collision free leftDataIn rightDataIn
        sameDataHash
    · apply abiEncode_injective
      exact HashInputs.eq_of_not_collision free leftTokensIn rightTokensIn
        sameTokensHash
  · exact metadataHash_injective free leftMetadataIn rightMetadataIn
      sameMetadataHash

end Evm2EvmMessageV1_0

end RiskManagement
