import RiskManagement.Afn.LaneBlessStatus
import RiskManagement.Afn.StateInvariant

/-!
# The evidence behind a verified root

The states of a lane's two workers are what some accepted events made of the
initial ones, and each event was decoded from a log that the RPC served.  A
root that the lane publishes as verified therefore rests on such logs, on both
chains, whatever the workers do afterwards.
-/

namespace RiskManagement

/-- `update_with_event` of the source state, which hashes the message. -/
@[reducible] def SourceBlessState.hashing (keccak : Keccak) :
    State SourceBlessState VersionedCcipSendRequestFilter
      CcipSendRequestedEventUnion where
  updateWithEvent self _blockNumber _blockHash _address filter ev :=
    match self.updateWithEvent keccak filter ev with
    | .error error => (self, .error error)
    | .ok next => (next, .ok ())

/-- An event that one of the served logs decodes to. -/
def DecodesFrom {Filter Event : Type} [ContractEventFilter Filter Event]
    (filter : Filter) (Served : EVMLog → Prop) (event : Event) : Prop :=
  ∃ log, Served log ∧ ContractEventFilter.decodeLog filter log = .ok event

/-- What makes a root worth a vote: it was committed for the lane, and it is
the Merkle root of the hashes of the messages of its interval, in order. -/
structure BlessEvidence (keccak : Keccak) (messageMetadata : MessageMetadata)
    (commitStoreAddress : Address)
    (Sent : CcipSendRequestedEventUnion → Prop)
    (Logged : DestEventUnion → Prop) (taggedRoot : TaggedRoot) : Prop where
  sameStore : taggedRoot.commitStore = commitStoreAddress
  verified : ∃ interval : Interval, interval.min ≤ interval.max ∧
    (∃ ev, Logged ev ∧ ev.committed = some ⟨taggedRoot.root, interval⟩) ∧
      ∃ messages : List VersionedMessage,
        (∀ message ∈ messages, (∃ ev, Sent ev ∧ ev.message = message) ∧
          (message.hash keccak messageMetadata).value = message.messageId) ∧
        messages.map (fun message => message.sequenceNumber.toNat) =
          List.range' interval.min.toNat
            (interval.max.toNat - interval.min.toNat + 1) ∧
        rootFromHashedLeafs (hashSortedPair keccak)
          (messages.map VersionedMessage.messageId) = some taggedRoot.root

namespace SourceBlessState

/-- The state that some of these events made. -/
def AcceptedFrom (keccak : Keccak) (messageMetadata : MessageMetadata)
    (filter : VersionedCcipSendRequestFilter)
    (Sent : CcipSendRequestedEventUnion → Prop) (state : SourceBlessState) :
    Prop :=
  ∃ events, (∀ ev ∈ events, Sent ev) ∧
    (new messageMetadata).applyAll keccak filter events = .ok state

variable {keccak : Keccak} {messageMetadata : MessageMetadata}
  {filter : VersionedCcipSendRequestFilter}

theorem new_acceptedFrom (Sent : CcipSendRequestedEventUnion → Prop) :
    AcceptedFrom keccak messageMetadata filter Sent (new messageMetadata) :=
  ⟨[], by simp, rfl⟩

/-- An event is accepted and joins the others, or changes nothing. -/
theorem acceptedFrom_kept
    [ContractEventFilter VersionedCcipSendRequestFilter
      CcipSendRequestedEventUnion] (Served : EVMLog → Prop) :
    letI := hashing keccak
    KeptByEvents filter Served
      (AcceptedFrom keccak messageMetadata filter
        (DecodesFrom filter Served)) := by
  intro state log event holds served decoded
  obtain ⟨events, sent, applied⟩ := holds
  simp only [State.updateWithEvent]
  split
  · exact ⟨events, sent, applied⟩
  · rename_i next accepted
    refine ⟨events ++ [event], ?_, ?_⟩
    · intro ev member
      rcases List.mem_append.mp member with old | new
      · exact sent ev old
      · rw [List.mem_singleton.mp new]
        exact ⟨log, served, decoded⟩
    · rw [applyAll, List.foldlM_append, ← applyAll, applied]
      exact (bind_pure _).trans accepted

end SourceBlessState

namespace DestBlessState

/-- The state that some of these events made. -/
def AcceptedFrom (initial : DestBlessState)
    (filter : VersionedDestEventFilter) (Logged : DestEventUnion → Prop)
    (state : DestBlessState) : Prop :=
  ∃ events, (∀ ev ∈ events, Logged ev) ∧
    initial.applyAll filter events = .ok state

variable {initial : DestBlessState} {filter : VersionedDestEventFilter}

theorem acceptedFrom_self (Logged : DestEventUnion → Prop) :
    initial.AcceptedFrom filter Logged initial :=
  ⟨[], by simp, rfl⟩

theorem acceptedFrom_kept
    [ContractEventFilter VersionedDestEventFilter DestEventUnion]
    (Served : EVMLog → Prop) :
    KeptByEvents filter Served
      (initial.AcceptedFrom filter (DecodesFrom filter Served)) := by
  intro state log event holds served decoded
  obtain ⟨events, logged, applied⟩ := holds
  simp only [State.updateWithEvent]
  split
  · exact ⟨events, logged, applied⟩
  · rename_i next accepted
    refine ⟨events ++ [event], ?_, ?_⟩
    · intro ev member
      rcases List.mem_append.mp member with old | new
      · exact logged ev old
      · rw [List.mem_singleton.mp new]
        exact ⟨log, served, decoded⟩
    · rw [applyAll, List.foldlM_append, ← applyAll, applied]
      exact (bind_pure _).trans accepted

end DestBlessState

/-- A verified root has its evidence. -/
theorem evidence_of_verified {keccak : Keccak}
    {messageMetadata : MessageMetadata}
    {sourceFilter : VersionedCcipSendRequestFilter}
    {destFilter : VersionedDestEventFilter}
    {Sent : CcipSendRequestedEventUnion → Prop}
    {Logged : DestEventUnion → Prop} {initial : DestBlessState}
    {sourceBlessWorker : SourceBlessWorker}
    {destBlessWorker : DestBlessWorker}
    (fresh : initial.committedRootsWithIntervals = [])
    (source : SourceBlessState.AcceptedFrom keccak messageMetadata
      sourceFilter Sent sourceBlessWorker.stableCesm.state)
    (dest : initial.AcceptedFrom destFilter Logged
      destBlessWorker.unstableCesm.state)
    {taggedRoot : TaggedRoot}
    (verified : taggedRoot ∈ (latestLaneBlessStatus keccak sourceBlessWorker
      destBlessWorker).verifiedTaggedRoots) :
    BlessEvidence keccak messageMetadata initial.commitStoreAddress Sent
      Logged taggedRoot := by
  obtain ⟨sourceEvents, sent, sourceAccepted⟩ := source
  obtain ⟨destEvents, logged, destAccepted⟩ := dest
  obtain ⟨sameStore, _, _, interval, committed, verifies⟩ :=
    mem_verifiedTaggedRoots verified
  have commits := DestBlessState.applyAll_commitsFrom destAccepted
  obtain ⟨order, leaves, found, isRoot⟩ :=
    verifyRootWithInterval_eq_true verifies
  obtain ⟨sameMetadata, holds⟩ :=
    SourceBlessState.applyAll_holds sourceAccepted
  obtain ⟨messages, accepted, isLeaves, numbered⟩ :=
    holds.getMessageHashes found
  refine ⟨sameStore.trans commits.sameStore, interval, order, ?_, messages,
    ?_, numbered, ?_⟩
  · rcases commits.fromEvents _ committed with earlier | ⟨ev, member, isCommit⟩
    · simp [fresh] at earlier
    · exact ⟨ev, logged ev member, isCommit⟩
  · intro message member
    obtain ⟨ev, isEvent, isMessage⟩ := List.mem_map.mp (accepted member)
    have hashed := holds.hashed message (accepted member)
    rw [sameMetadata] at hashed
    exact ⟨⟨ev, sent ev isEvent, isMessage⟩, hashed⟩
  · rw [← isLeaves]
    exact isRoot

end RiskManagement
