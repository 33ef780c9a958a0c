import RiskManagement.Afn.Evm2EvmOnRampV10
import RiskManagement.Afn.Evm2EvmOnRampV12

/-!
# What a message hash commits to

The two versions hash leaf strings of different lengths, so one hash value
cannot belong to messages of both versions without a collision.
-/

namespace RiskManagement

/-- A message of either version. -/
inductive VersionedMessage where
  | v1_0 (message : Evm2EvmMessageV1_0)
  | v1_2 (message : Evm2EvmMessageV1_2)
deriving DecidableEq

namespace VersionedMessage

/-- The hash of a message of either version. -/
def hash (keccak : Keccak) (self : VersionedMessage)
    (metadata : MessageMetadata) : Hashed Bytes32 :=
  match self with
  | .v1_0 message => MessageHash.hash keccak message metadata
  | .v1_2 message => MessageHash.hash keccak message metadata

/-- Of the same version, and equal in all fields but the message id and the
message's own source chain selector. -/
def SameContent : VersionedMessage → VersionedMessage → Prop
  | .v1_0 left, .v1_0 right => left.SameContent right
  | .v1_2 left, .v1_2 right => left.SameContent right
  | _, _ => False

/-- The string that is hashed last. -/
def leafInput (keccak : Keccak) (self : VersionedMessage)
    (metadata : MessageMetadata) : List UInt8 :=
  match self with
  | .v1_0 message => message.leafInput keccak metadata
  | .v1_2 message => message.leafInput keccak metadata

theorem leafInput_hashed (keccak : Keccak) (self : VersionedMessage)
    (metadata : MessageMetadata) :
    (self.hash keccak metadata).value =
        keccak (self.leafInput keccak metadata) ∧
      self.leafInput keccak metadata ∈
        (self.hash keccak metadata).inputs := by
  cases self with
  | v1_0 message =>
      refine ⟨rfl, ?_⟩
      change _ ∈ (message.hash keccak metadata).inputs
      simp [leafInput, Evm2EvmMessageV1_0.hash_inputs]
  | v1_2 message =>
      refine ⟨rfl, ?_⟩
      change _ ∈ (message.hash keccak metadata).inputs
      simp [leafInput, Evm2EvmMessageV1_2.hash_inputs]

section

variable {keccak : Keccak} {left right : VersionedMessage}
  {leftMetadata rightMetadata : MessageMetadata}

theorem hash_injective {inputs : List (List UInt8)}
    (free : ¬HashInputs.Collision keccak inputs)
    (leftHashed : (left.hash keccak leftMetadata).inputs ⊆ inputs)
    (rightHashed : (right.hash keccak rightMetadata).inputs ⊆ inputs)
    (same : (left.hash keccak leftMetadata).value =
      (right.hash keccak rightMetadata).value) :
    left.SameContent right ∧ leftMetadata = rightMetadata := by
  obtain ⟨leftValue, leftLeaf⟩ := left.leafInput_hashed keccak leftMetadata
  obtain ⟨rightValue, rightLeaf⟩ :=
    right.leafInput_hashed keccak rightMetadata
  have sameLength : (left.leafInput keccak leftMetadata).length =
      (right.leafInput keccak rightMetadata).length := by
    rw [HashInputs.eq_of_not_collision free (leftHashed leftLeaf)
      (rightHashed rightLeaf) (leftValue.symm.trans (same.trans rightValue))]
  cases left with
  | v1_0 leftMessage =>
      cases right with
      | v1_0 rightMessage =>
          exact Evm2EvmMessageV1_0.hash_injective free leftHashed rightHashed
            same
      | v1_2 rightMessage =>
          simp [leafInput, Evm2EvmMessageV1_0.leafInput_length,
            Evm2EvmMessageV1_2.leafInput_length] at sameLength
  | v1_2 leftMessage =>
      cases right with
      | v1_0 rightMessage =>
          simp [leafInput, Evm2EvmMessageV1_0.leafInput_length,
            Evm2EvmMessageV1_2.leafInput_length] at sameLength
      | v1_2 rightMessage =>
          exact Evm2EvmMessageV1_2.hash_injective free leftHashed rightHashed
            same

/-- Equal hashes come from equal messages of one version under equal metadata,
or two different strings hashed on the way have the same hash. -/
theorem hash_commits (same : (left.hash keccak leftMetadata).value =
      (right.hash keccak rightMetadata).value) :
    (left.SameContent right ∧ leftMetadata = rightMetadata) ∨
      ∃ first ∈ (left.hash keccak leftMetadata).inputs ++
          (right.hash keccak rightMetadata).inputs,
        ∃ second ∈ (left.hash keccak leftMetadata).inputs ++
            (right.hash keccak rightMetadata).inputs,
          first ≠ second ∧ keccak first = keccak second := by
  by_cases collision : HashInputs.Collision keccak
      ((left.hash keccak leftMetadata).inputs ++
        (right.hash keccak rightMetadata).inputs)
  · exact .inr collision
  · exact .inl (hash_injective collision (List.subset_append_left _ _)
      (List.subset_append_right _ _) same)

end

end VersionedMessage

/-- An empty transfer that shows the given message id. -/
def emptyMessage (messageId : Bytes32) : Evm2EvmMessageV1_0 where
  sourceChainSelector := 1
  sequenceNumber := 1
  feeTokenAmount := .new 0
  sender := .replicate 20 1
  nonce := 1
  gasLimit := .new 0
  strict := false
  receiver := .replicate 20 2
  data := .empty
  tokenAmounts := ⟨[], by decide⟩
  feeToken := .replicate 20 3
  messageId := messageId

def firstLaneMetadata : MessageMetadata where
  onrampAddress := .replicate 20 4
  sourceChainSelector := 1
  destChainSelector := 2

/-- A message with the sequence number and the hash that is computed for it. -/
def numberedMessage (keccak : Keccak) (messageMetadata : MessageMetadata)
    (seqNr : UInt64) : Evm2EvmMessageV1_0 :=
  let unnamed := { emptyMessage (.replicate 32 0) with sequenceNumber := seqNr }
  { unnamed with messageId := (unnamed.hash keccak messageMetadata).value }

/-- Two messages that differ in the message id only. -/
def firstCopy : VersionedMessage := .v1_0 (emptyMessage (.replicate 32 1))
def secondCopy : VersionedMessage := .v1_0 (emptyMessage (.replicate 32 2))

theorem hash_commits_copies :
    (firstCopy.SameContent secondCopy ∧
        firstLaneMetadata = firstLaneMetadata) ∨
      ∃ first ∈ (firstCopy.hash lengthHash firstLaneMetadata).inputs ++
          (secondCopy.hash lengthHash firstLaneMetadata).inputs,
        ∃ second ∈ (firstCopy.hash lengthHash firstLaneMetadata).inputs ++
            (secondCopy.hash lengthHash firstLaneMetadata).inputs,
          first ≠ second ∧ lengthHash first = lengthHash second :=
  VersionedMessage.hash_commits rfl

end RiskManagement
