import RiskManagement.Afn.BlessEvidence
import RiskManagement.Afn.ChainSelector
import RiskManagement.Afn.ConfigAcceptance
import RiskManagement.Afn.CurseBeacon
import RiskManagement.Afn.VoteToBlessWorker

/-!
# The part of the node that blesses

For each lane one worker replays the source, one the destination, and one
publishes which committed roots the source verifies.  The voting worker of a
destination chain collects what its lanes have published and the beacon does
not curse.  All of them run in threads of their own, so the steps of the node
are those of its threads, in any order.
-/

namespace RiskManagement

open Relation (ReflTransGen)

/-- What is fixed when the voting worker of a chain is started.  The lanes are
those of an accepted configuration. -/
structure BlessSetup where
  keccak : Keccak
  config : OffchainConfig
  accepted : ∃ sharedChainConfigs sharedLaneConfigs localChainConfigs,
    OffchainConfig.new sharedChainConfigs sharedLaneConfigs
      localChainConfigs = .ok config
  destChain : ChainName
  afnContract : Address
  onchainConfigVersion : UInt32
  voteToBlessAddress : Address
  maxTaggedRootsPerVoteToBless : Nat
  inflightTime : Nat
  pollInterval : Nat
  mode : VotingMode
  world : VotingWorld LaneId

namespace BlessSetup

variable (setup : BlessSetup)

/-- The lanes whose roots are voted for. -/
def laneConfigs : EntryMap LaneId SharedLaneConfig :=
  setup.config.laneConfigs setup.destChain

/-- The worker's configuration, with the table it makes of the lanes. -/
def voterConfig : VoteToBlessConfig LaneId where
  maxTaggedRootsPerVoteToBless := setup.maxTaggedRootsPerVoteToBless
  inflightTime := setup.inflightTime
  pollInterval := setup.pollInterval
  laneIdByCommitStore := (laneIdByCommitStore setup.laneConfigs).lookup
  mode := setup.mode

end BlessSetup

/-- The three workers of a lane that bless.  Of the last one, what it has
published. -/
structure LaneWorkers where
  sourceBlessWorker : SourceBlessWorker
  destBlessWorker : DestBlessWorker
  laneBlessStatus : Option LaneBlessStatus

namespace SharedLaneConfig

/-- `none` is a chain without a selector. -/
def messageMetadata (laneConfig : SharedLaneConfig) :
    Option MessageMetadata := do
  let sourceChainSelector ← chainSelector laneConfig.laneId.sourceChainName
  let destChainSelector ← chainSelector laneConfig.laneId.destChainName
  return { onrampAddress := laneConfig.onRamp
           sourceChainSelector := sourceChainSelector
           destChainSelector := destChainSelector }

/-- What the worker of a lane's source is spawned with. -/
def sourceFilter (laneConfig : SharedLaneConfig) :
    VersionedCcipSendRequestFilter where
  laneType := laneConfig.laneType

/-- What the worker of a lane's destination is spawned with. -/
def destFilter (laneConfig : SharedLaneConfig) : VersionedDestEventFilter where
  laneType := laneConfig.laneType

end SharedLaneConfig

/-- The state of a lane's destination before the first event. -/
def BlessSetup.initialDest (setup : BlessSetup)
    (laneConfig : SharedLaneConfig) : DestBlessState :=
  .new setup.voteToBlessAddress laneConfig.commitStore
    setup.onchainConfigVersion

/-- What `LaneState::new_and_spawn_workers` makes of a lane. -/
def BlessSetup.spawnLane (setup : BlessSetup)
    (laneConfig : SharedLaneConfig) (messageMetadata : MessageMetadata) :
    LaneWorkers where
  sourceBlessWorker := .spawn (.new laneConfig.sourceStartBlockNumber
    [laneConfig.onRamp] (.new messageMetadata) laneConfig.sourceFilter)
  destBlessWorker := .spawn (.new laneConfig.destStartBlockNumber
    [laneConfig.commitStore, setup.afnContract] (setup.initialDest laneConfig)
    laneConfig.destFilter)
  laneBlessStatus := none

/-- `get_roots_to_bless`, on the lanes in the order in which they are sorted.
The beacon is asked about every lane. -/
def getRootsToBless
    (laneBlessStatusWorkers : List (LaneId × Option LaneBlessStatus))
    (laneIsCursed : LaneId → Bool) : List TaggedRoot :=
  (laneBlessStatusWorkers.filterMap fun (laneId, laneBlessStatus) =>
    if !laneIsCursed laneId then laneBlessStatus else none).flatMap
      LaneBlessStatus.verifiedTaggedRoots

/-- The states of the threads that bless, for one destination chain. -/
structure BlessNode where
  lanes : LaneId → LaneWorkers
  curseBeacon : CurseBeacon
  voter : VoteToBlessWorker LaneId

namespace BlessNode

def setLane (node : BlessNode) (laneId : LaneId) (lane : LaneWorkers) :
    BlessNode :=
  { node with lanes := Function.update node.lanes laneId lane }

/-- A node whose threads were just started. -/
structure Started (setup : BlessSetup) (node : BlessNode) : Prop where
  lanes : ∀ laneId laneConfig,
    setup.laneConfigs.lookup laneId = some laneConfig →
      ∃ messageMetadata, laneConfig.messageMetadata = some messageMetadata ∧
        node.lanes laneId = setup.spawnLane laneConfig messageMetadata
  voter : node.voter = .start setup.voterConfig

/-- What a poll of the voting worker finds published. -/
def laneBlessStatuses (node : BlessNode) (sortedLaneIds : List LaneId) :
    List (LaneId × Option LaneBlessStatus) :=
  sortedLaneIds.map fun laneId =>
    (laneId, (node.lanes laneId).laneBlessStatus)

/-- The beacons that a poll sees, while another thread updates them: `asked`
when a lane's status is read, `during` under each question of the poll. -/
structure BeaconsOfPoll (setup : BlessSetup) (node : BlessNode)
    (after : VoteToBlessWorker LaneId) (ends : CurseBeacon)
    (statusChecks : LaneId → Bool) : Prop where
  statuses : ∀ laneId, ∃ asked,
    ReflTransGen CurseBeacon.Updates node.curseBeacon asked ∧
      ReflTransGen CurseBeacon.Updates asked ends ∧
        statusChecks laneId = asked.laneIsCursed laneId
  answers : ∀ number, node.voter.asked ≤ number → number < after.asked →
    ∃ during,
      ReflTransGen CurseBeacon.Updates node.curseBeacon during ∧
        ReflTransGen CurseBeacon.Updates during ends ∧
          ∀ laneId, setup.world.laneIsCursed number laneId =
            during.laneIsCursed laneId
  ends : ReflTransGen CurseBeacon.Updates node.curseBeacon ends

section Steps

variable [ContractEventFilter VersionedCcipSendRequestFilter
    CcipSendRequestedEventUnion]
  [ContractEventFilter VersionedDestEventFilter DestEventUnion]

/-- An iteration of the worker, on states that hash with `keccak`. -/
def iterateSource (keccak : Keccak) (worker : SourceBlessWorker) (fuel : Nat)
    (iteration : WorkerIteration) : SourceBlessWorker :=
  letI := SourceBlessState.hashing keccak
  (worker.iterate fuel iteration).1

def iterateDest (worker : DestBlessWorker) (fuel : Nat)
    (iteration : WorkerIteration) : DestBlessWorker :=
  (worker.iterate fuel iteration).1

/-- One step of one thread.  The RPCs serve the given logs of each lane's
source and destination. -/
inductive Step (setup : BlessSetup)
    (SourceLog DestLog : LaneId → EVMLog → Prop) :
    BlessNode → BlessNode → Prop where
  | source (node : BlessNode) (laneId : LaneId) (fuel : Nat)
      {iteration : WorkerIteration}
      (serves : iteration.Serves (SourceLog laneId)) :
      Step setup SourceLog DestLog node (node.setLane laneId
        { node.lanes laneId with
          sourceBlessWorker := iterateSource setup.keccak
            (node.lanes laneId).sourceBlessWorker fuel iteration })
  | dest (node : BlessNode) (laneId : LaneId) (fuel : Nat)
      {iteration : WorkerIteration}
      (serves : iteration.Serves (DestLog laneId)) :
      Step setup SourceLog DestLog node (node.setLane laneId
        { node.lanes laneId with
          destBlessWorker := iterateDest
            (node.lanes laneId).destBlessWorker fuel iteration })
  | publish (node : BlessNode) (laneId : LaneId) :
      Step setup SourceLog DestLog node (node.setLane laneId
        { node.lanes laneId with
          laneBlessStatus := some (latestLaneBlessStatus setup.keccak
            (node.lanes laneId).sourceBlessWorker
            (node.lanes laneId).destBlessWorker) })
  | update (node : BlessNode) (view : BeaconView) :
      Step setup SourceLog DestLog node
        { node with curseBeacon := node.curseBeacon.update view }
  | poll {node : BlessNode} {sortedLaneIds : List LaneId}
      {statusChecks : LaneId → Bool} {fuel : Nat} {delay : Option Nat}
      {after : VoteToBlessWorker LaneId} {ends : CurseBeacon}
      {result : Except VoteToBlessError Nat}
      (sorted : sortedLaneIds.Perm setup.laneConfigs.keys)
      (beacons : BeaconsOfPoll setup node after ends statusChecks)
      (polled : node.voter.poll setup.world setup.voterConfig fuel
        (getRootsToBless (node.laneBlessStatuses sortedLaneIds) statusChecks)
        delay = some (after, result)) :
      Step setup SourceLog DestLog node
        { node with curseBeacon := ends, voter := after }

end Steps
end BlessNode
end RiskManagement
