import RiskManagement.Afn.LaneBlessStatus

/-!
# Bless soundness

A root is only put up for a vote when the source chain's messages of the
committed interval have it as their Merkle root.
-/

namespace RiskManagement

/-- Every verified root was committed for the lane, is not voted for or blessed
yet, and is the Merkle root of the hashes of exactly the accepted messages of
its interval, in order. -/
theorem bless_sound {keccak : Keccak} {laneType : LaneType}
    {messageMetadata : MessageMetadata}
    {sourceEvents : List CcipSendRequestedEventUnion}
    {myVoteAddress commitStoreAddress : Address} {configVersion : UInt32}
    {destEvents : List DestEventUnion}
    {sourceBlessWorker : SourceBlessWorker}
    {destBlessWorker : DestBlessWorker}
    (sourceAccepted :
      (SourceBlessState.new messageMetadata).applyAll keccak ⟨laneType⟩
        sourceEvents = .ok sourceBlessWorker.stableCesm.state)
    (destApplied :
      (DestBlessState.new myVoteAddress commitStoreAddress
        configVersion).applyAll ⟨laneType⟩ destEvents =
          .ok destBlessWorker.unstableCesm.state)
    {taggedRoot : TaggedRoot}
    (verified : taggedRoot ∈ (latestLaneBlessStatus keccak sourceBlessWorker
      destBlessWorker).verifiedTaggedRoots) :
    taggedRoot.commitStore = commitStoreAddress ∧
      taggedRoot.root ∉ destBlessWorker.unstableCesm.state.blessedRoots ∧
      taggedRoot.root ∉
        destBlessWorker.unstableCesm.state.myVotedButNotYetBlessedRoots ∧
      ∃ interval : Interval, interval.min ≤ interval.max ∧
        (∃ ev ∈ destEvents,
          ev.committed = some ⟨taggedRoot.root, interval⟩) ∧
        ∃ messages : List VersionedMessage,
          (∀ message ∈ messages,
            message ∈ sourceEvents.map CcipSendRequestedEventUnion.message ∧
              (message.hash keccak messageMetadata).value =
                message.messageId) ∧
          messages.map (fun message => message.sequenceNumber.toNat) =
            List.range' interval.min.toNat
              (interval.max.toNat - interval.min.toNat + 1) ∧
          rootFromHashedLeafs (hashSortedPair keccak)
            (messages.map VersionedMessage.messageId) =
              some taggedRoot.root := by
  obtain ⟨sameStore, notBlessed, notVoted, interval, committed, verifies⟩ :=
    mem_verifiedTaggedRoots verified
  have commits := DestBlessState.applyAll_commitsFrom destApplied
  have fromEvent : ∃ ev ∈ destEvents,
      ev.committed = some ⟨taggedRoot.root, interval⟩ := by
    rcases commits.fromEvents _ committed with initial | applied
    · simp [DestBlessState.new] at initial
    · exact applied
  obtain ⟨order, leaves, found, isRoot⟩ :=
    verifyRootWithInterval_eq_true verifies
  obtain ⟨sameMetadata, holds⟩ :=
    SourceBlessState.applyAll_holds sourceAccepted
  obtain ⟨messages, accepted, isLeaves, numbered⟩ :=
    holds.getMessageHashes found
  refine ⟨sameStore.trans commits.sameStore, notBlessed, notVoted, interval,
    order, fromEvent, messages, ?_, numbered, ?_⟩
  · intro message member
    have hashed := holds.hashed message (accepted member)
    rw [sameMetadata] at hashed
    exact ⟨accepted member, hashed⟩
  · rw [← isLeaves]
    exact isRoot

/-! ### A lane with three messages -/

/-- The events of three messages in a row. -/
def threeSends : List CcipSendRequestedEventUnion :=
  [1, 2, 3].map (numberedSend foldHash firstLaneMetadata)

def threeMessageIds : List Bytes32 :=
  [1, 2, 3].map fun seqNr =>
    (numberedMessage foldHash firstLaneMetadata seqNr).messageId

/-- The root of the three messages. -/
def threeMessagesRoot : Bytes32 :=
  (rootFromHashedLeafs (hashSortedPair foldHash) threeMessageIds).getD
    zeroHash

/-- The commitment of the three messages. -/
def threeMessagesCommitted : DestEventUnion :=
  .committedV1_0 ⟨{
    priceUpdates := ⟨⟨[], by decide⟩, 1, .new 0⟩
    interval := ⟨1, 3⟩
    merkleRoot := threeMessagesRoot }⟩

def threeSourceWorker : SourceBlessWorker :=
  .spawn (.new 0 [] ⟨firstLaneMetadata, [1, 2, 3].zip threeMessageIds⟩
    ⟨.evm2EvmV1_0⟩)

def threeDestWorker : DestBlessWorker :=
  .spawn (.new 0 []
    { DestBlessState.new (.replicate 20 5) (.replicate 20 6) 1 with
      committedRootsWithIntervals := [⟨threeMessagesRoot, ⟨1, 3⟩⟩] }
    ⟨.evm2EvmV1_0⟩)

/-- The ids in another order have another root. -/
theorem bless_sound_threeMessages :
    rootFromHashedLeafs (hashSortedPair foldHash) threeMessageIds.reverse ≠
        some threeMessagesRoot ∧
      ∃ interval : Interval, interval.min ≤ interval.max ∧
        (∃ ev ∈ [threeMessagesCommitted],
          ev.committed = some ⟨threeMessagesRoot, interval⟩) ∧
        ∃ messages : List VersionedMessage,
          (∀ message ∈ messages,
            message ∈
                threeSends.map CcipSendRequestedEventUnion.message ∧
              (message.hash foldHash firstLaneMetadata).value =
                message.messageId) ∧
          messages.map (fun message => message.sequenceNumber.toNat) =
            List.range' interval.min.toNat
              (interval.max.toNat - interval.min.toNat + 1) ∧
          rootFromHashedLeafs (hashSortedPair foldHash)
            (messages.map VersionedMessage.messageId) =
              some threeMessagesRoot := by
  have sourceAccepted :
      (SourceBlessState.new firstLaneMetadata).applyAll foldHash
        ⟨.evm2EvmV1_0⟩ threeSends =
          .ok threeSourceWorker.stableCesm.state := by
    decide +kernel
  have destApplied :
      (DestBlessState.new (.replicate 20 5) (.replicate 20 6) 1).applyAll
        ⟨.evm2EvmV1_0⟩ [threeMessagesCommitted] =
          .ok threeDestWorker.unstableCesm.state := by
    decide +kernel
  have verified : (⟨.replicate 20 6, threeMessagesRoot⟩ : TaggedRoot) ∈
      (latestLaneBlessStatus foldHash threeSourceWorker
        threeDestWorker).verifiedTaggedRoots := by
    decide +kernel
  obtain ⟨_, _, _, found⟩ := bless_sound sourceAccepted destApplied verified
  exact ⟨by decide +kernel, found⟩

end RiskManagement
