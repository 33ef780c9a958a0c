import RiskManagement.Minieth.Bytes

/-!
# Configuration and events of the AFN contract
-/

namespace RiskManagement

/-- A voter of the AFN contract: its addresses and its weights. -/
structure Voter where
  blessVoteAddr : Address
  curseVoteAddr : Address
  curseUnvoteAddr : Address
  blessWeight : UInt8
  curseWeight : UInt8
deriving DecidableEq

/-- The voters of the AFN contract and the weights that decide a vote. -/
structure OnchainConfig where
  voters : RustVec Voter
  blessWeightThreshold : UInt16
  curseWeightThreshold : UInt16
deriving DecidableEq

/-- What `getConfigDetails` answers. -/
structure VersionedOnchainConfig where
  version : UInt32
  blockNumber : UInt32
  config : OnchainConfig
deriving DecidableEq

/-- A Merkle root together with the commit store that holds it. -/
structure TaggedRoot where
  commitStore : Address
  root : Bytes32
deriving DecidableEq

/-- A root was blessed. -/
structure TaggedRootBlessedEvent where
  configVersion : UInt32
  taggedRoot : TaggedRoot
  accumulatedWeight : UInt16
deriving DecidableEq

/-- The votes for a root were reset. -/
structure TaggedRootBlessVotesResetEvent where
  configVersion : UInt32
  taggedRoot : TaggedRoot
  wasBlessed : Bool
deriving DecidableEq

/-- A voter has voted for a root. -/
structure VotedToBlessEvent where
  configVersion : UInt32
  voter : Address
  taggedRoot : TaggedRoot
  weight : UInt8
deriving DecidableEq

/-- A voter has voted for a root once more. -/
structure AlreadyVotedToBlessEvent where
  configVersion : UInt32
  voter : Address
  taggedRoot : TaggedRoot
deriving DecidableEq

/-- A voter has voted for a root that was blessed already. -/
structure AlreadyBlessedEvent where
  configVersion : UInt32
  voter : Address
  taggedRoot : TaggedRoot
deriving DecidableEq

end RiskManagement
