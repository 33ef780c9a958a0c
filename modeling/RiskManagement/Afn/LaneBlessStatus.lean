import RiskManagement.Afn.DestBlessState
import RiskManagement.Afn.SourceBlessState
import RiskManagement.Afn.UnstableWorker

/-!
# Which roots a lane's node votes to bless

The committed roots of the unstable destination state that the stable source
state verifies.  The flag that tells whether the source is synced only chooses
what is logged.
-/

namespace RiskManagement

abbrev SourceBlessWorker := UnstableContractEventStateMachineWorker
  SourceBlessState VersionedCcipSendRequestFilter

abbrev DestBlessWorker := UnstableContractEventStateMachineWorker
  DestBlessState VersionedDestEventFilter

/-- The roots of a lane that may be voted for. -/
structure LaneBlessStatus where
  verifiedTaggedRoots : List TaggedRoot
deriving DecidableEq

/-- The roots that may be voted for and that the source's messages confirm. -/
def latestLaneBlessStatus (keccak : Keccak)
    (sourceBlessWorker : SourceBlessWorker)
    (destBlessWorker : DestBlessWorker) : LaneBlessStatus :=
  let destBlessStateUnstable := destBlessWorker.unstableCesm.state
  let sourceBlessStateStable := sourceBlessWorker.stableCesm.state
  let commitStore := destBlessStateUnstable.commitStoreAddress
  { verifiedTaggedRoots :=
      destBlessStateUnstable.unverifiedRootsWithIntervalsWeCouldVote.filterMap
        fun (rootWithInterval, _rootIdx) =>
          match verifyRootWithInterval keccak rootWithInterval
            sourceBlessStateStable with
          | .ok true => some ⟨commitStore, rootWithInterval.root⟩
          | .ok false => none
          | .error _ => none }

theorem mem_verifiedTaggedRoots {keccak : Keccak}
    {sourceBlessWorker : SourceBlessWorker}
    {destBlessWorker : DestBlessWorker} {taggedRoot : TaggedRoot}
    (verified : taggedRoot ∈ (latestLaneBlessStatus keccak sourceBlessWorker
      destBlessWorker).verifiedTaggedRoots) :
    taggedRoot.commitStore =
        destBlessWorker.unstableCesm.state.commitStoreAddress ∧
      taggedRoot.root ∉ destBlessWorker.unstableCesm.state.blessedRoots ∧
      taggedRoot.root ∉
        destBlessWorker.unstableCesm.state.myVotedButNotYetBlessedRoots ∧
      ∃ interval, ⟨taggedRoot.root, interval⟩ ∈
          destBlessWorker.unstableCesm.state.committedRootsWithIntervals ∧
        verifyRootWithInterval keccak ⟨taggedRoot.root, interval⟩
          sourceBlessWorker.stableCesm.state = .ok true := by
  obtain ⟨⟨ri, index⟩, member, isVerified⟩ := List.mem_filterMap.mp verified
  obtain ⟨committed, notBlessed, notVoted⟩ :=
    DestBlessState.mem_unverifiedRootsWithIntervalsWeCouldVote member
  simp only at isVerified
  split at isVerified
  · rename_i verifies
    cases isVerified
    exact ⟨rfl, notBlessed, notVoted, ri.interval, committed, verifies⟩
  · cases isVerified
  · cases isVerified

end RiskManagement
