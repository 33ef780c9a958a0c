import RiskManagement.Library.HashInputs
import RiskManagement.Minieth.Keccak
import RiskManagement.Miniabi.AbiEncode

/-!
# Message hashes and the metadata they depend on
-/

namespace RiskManagement

abbrev ChainSelector := UInt64

/-- What the hashes of all messages of a lane depend on. -/
structure MessageMetadata where
  onrampAddress : Address
  sourceChainSelector : ChainSelector
  destChainSelector : ChainSelector
deriving DecidableEq

/-- The bytes of a string. -/
def stringBytes (string : String) : List UInt8 := string.toUTF8.data.toList

/-- The tuple that `metadata_hash` encodes. -/
def metadataComponents (typeHash : Bytes32) (metadata : MessageMetadata) :
    List Value :=
  [into typeHash,
    into metadata.sourceChainSelector,
    into metadata.destChainSelector,
    into metadata.onrampAddress]

/-- A part of every leaf of a lane. -/
def metadataHash (keccak : Keccak) (messageType : String)
    (metadata : MessageMetadata) : Hashed Bytes32 := do
  let typeHash ← keccak256 keccak (stringBytes messageType)
  keccak256 keccak (abiEncodeTuple (metadataComponents typeHash metadata))

/-- The source's `Hashable`. -/
class MessageHash (Message : Type) where
  hash : Keccak → Message → MessageMetadata → Hashed Bytes32

theorem metadataComponents_hasValues (typeHash : Bytes32)
    (metadata : MessageMetadata) :
    AbiType.HasValues [.bytes32, .u64, .u64, .address]
      (metadataComponents typeHash metadata) :=
  .into _ (.into _ (.into _ (.into _ .nil)))

theorem metadataComponents_injective (typeHash : Bytes32)
    {left right : MessageMetadata}
    (same : metadataComponents typeHash left =
      metadataComponents typeHash right) : left = right := by
  cases left
  cases right
  simp only [metadataComponents, into, List.cons.injEq, Value.u64.injEq,
    Value.address.injEq, and_true, true_and] at same
  obtain ⟨rfl, rfl, rfl⟩ := same
  rfl

/-- Without a collision the metadata hash of one message type determines the
metadata. -/
theorem metadataHash_injective {keccak : Keccak} {messageType : String}
    {left right : MessageMetadata} {inputs : List (List UInt8)}
    (free : ¬HashInputs.Collision keccak inputs)
    (leftHashed : (metadataHash keccak messageType left).inputs ⊆ inputs)
    (rightHashed : (metadataHash keccak messageType right).inputs ⊆ inputs)
    (same : (metadataHash keccak messageType left).value =
      (metadataHash keccak messageType right).value) : left = right := by
  have hashed : ∀ metadata, abiEncodeTuple (metadataComponents
      (keccak (stringBytes messageType)) metadata) ∈
        (metadataHash keccak messageType metadata).inputs := by
    intro metadata
    simp [metadataHash]
  have sameInput := HashInputs.eq_of_not_collision free
    (leftHashed (hashed left)) (rightHashed (hashed right)) same
  apply metadataComponents_injective
  exact abiEncodeTuple_injective (metadataComponents_hasValues _ left)
    (metadataComponents_hasValues _ right) sameInput

end RiskManagement
