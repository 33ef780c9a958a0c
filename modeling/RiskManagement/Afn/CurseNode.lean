import Mathlib.Logic.Function.Basic
import RiskManagement.Afn.BlessNode
import RiskManagement.Afn.ChainStatusWorker
import RiskManagement.Afn.EventFilters
import RiskManagement.Afn.FinalityConflict
import RiskManagement.Afn.Monitor

/-!
# The part of the node that curses

A thread for each chain follows its status.  For each lane one worker replays
the source and one the off-ramp, and the detector compares them.  The reaper
and the monitor, which updates the beacon, are threads too.  None of them
waits for another, so an update of the beacon is cut into the reads it makes.
-/

namespace RiskManagement

open Relation (ReflTransGen)

/-- A release build wraps where the minutes do not fit. -/
def TimeUnit.toSeconds : TimeUnit → UInt64
  | .seconds count => count
  | .minutes count => count * 60

/-- Which updater follows a chain. -/
def ChainStability.chainStatusUpdater : ChainStability → ChainStatusUpdater
  | .confirmationDepth softConfirmations hardConfirmations =>
      .confirmationDepth
        { softConfirmations := softConfirmations.toNat
          hardConfirmations := hardConfirmations.toNat }
  | .finalityTag _ => .finalityTag

/-- The closure that a `ChainStatusWorker` repeats, on the status it has
published. -/
def ChainStatusUpdater.poll (updater : ChainStatusUpdater) (rpc : BlockRpc)
    (isDone : Nat → Bool) (fuel : Nat)
    (latestChainStatus : Option ChainStatus) :
    Except UpdateError ChainStatus :=
  match latestChainStatus with
  | none => updater.initial rpc
  | some chainStatus => updater.update rpc isDone fuel chainStatus

/-- The flag of `synced_state_read`, by a clock that counts seconds. -/
def ContractEventStateMachine.isSynced {S Filter : Type}
    (machine : ContractEventStateMachine S Filter)
    (maxFreshBlockAge : TimeUnit) (now : Nat) : Bool :=
  match machine.timestamp with
  | none => false
  | some latestBlockTimestamp =>
      now - latestBlockTimestamp.toNat ≤ maxFreshBlockAge.toSeconds.toNat

abbrev DestOffRampWorker (Bits : Type) :=
  UnstableContractEventStateMachineWorker (DestOffRampState Bits)
    SimpleExecutionStateChangedFilter

/-- What a pass of the detector reads.  The clock is read for each state. -/
def SourceBlessWorker.view (worker : SourceBlessWorker)
    (maxFreshBlockAge : TimeUnit) (unstableNow stableNow : Nat) :
    SourceView where
  stableMessageHash := worker.stableCesm.state.messageHash
  unstableMessageHash := worker.unstableCesm.state.messageHash
  stableSynced := worker.stableCesm.isSynced maxFreshBlockAge stableNow
  unstableSynced := worker.unstableCesm.isSynced maxFreshBlockAge unstableNow

/-- What a lane has for its detector; `taken` is what the reaper has taken out
of it and has not removed from the off-ramp yet. -/
structure DetectedLane (Bits : Type) where
  sourceBlessWorker : SourceBlessWorker
  destOfframpWorker : DestOffRampWorker Bits
  offrampAnomalyDetector : OffRampAnomalyDetectorState
  taken : Finset UInt64

/-- An update between two of its reads: the chains and lanes it has not read,
and its copy of the map. -/
structure BeaconUpdate where
  chains : List ChainName
  lanes : List LaneId
  localCursableAnomalies : CursableAnomaliesWithCurseIds

/-- The threads' states.  `stableTips`, `passes` and `updates` are a log: the
stable tips of every status that was published, what the passes of each lane's
detector read of its source, and how many updates were published. -/
structure CurseNode (Bits : Type) where
  latestChainStatus : ChainName → Option ChainStatus
  lanes : LaneId → DetectedLane Bits
  curseBeacon : CurseBeacon
  updating : Option BeaconUpdate
  stableTips : ChainName → List Block
  passes : LaneId → List SourceView
  updates : Nat

/-- What a node that curses is started with. -/
structure CurseSetup where
  keccak : Keccak
  config : OffchainConfig
  manualCurse : Option CurseId

/-- What the chains' nodes answer in the whole run. -/
structure ChainAnswers where
  Fetched : ChainName → Block → Prop
  Finalized : ChainName → Block → Prop
  SourceLog : LaneId → EVMLog → Prop
  DestLog : LaneId → EVMLog → Prop

section Steps

variable {Bits : Type} [BitSet Bits]

/-- The workers of `LaneState::new_and_spawn_workers` that the detector of a
lane reads. -/
def CurseSetup.spawnLane (setup : CurseSetup) (laneConfig : SharedLaneConfig)
    (messageMetadata : MessageMetadata) : DetectedLane Bits where
  sourceBlessWorker := .spawn (.new laneConfig.sourceStartBlockNumber
    [laneConfig.onRamp] (.new messageMetadata) laneConfig.sourceFilter)
  destOfframpWorker := .spawn (.new laneConfig.destStartBlockNumber
    [laneConfig.offRamp] .default (executionFilter setup.keccak))
  offrampAnomalyDetector := .default
  taken := ∅

namespace CurseNode

/-- A node whose threads were just started. -/
structure Started (setup : CurseSetup) (node : CurseNode Bits) : Prop where
  chains : ∀ chain, node.latestChainStatus chain = none
  lanes : ∀ laneId laneConfig,
    setup.config.sharedConfigByEnabledLane.lookup laneId = some laneConfig →
      ∃ messageMetadata, laneConfig.messageMetadata = some messageMetadata ∧
        node.lanes laneId = setup.spawnLane laneConfig messageMetadata
  beacon : ∃ draw,
    node.curseBeacon = startBeacon setup.config setup.manualCurse draw
  idle : node.updating = none

/-- The log of a node that is just starting. -/
structure NothingLogged (node : CurseNode Bits) : Prop where
  stableTips : ∀ chain, node.stableTips chain = []
  passes : ∀ laneId, node.passes laneId = []
  updates : node.updates = 0

def setLane (node : CurseNode Bits) (laneId : LaneId)
    (lane : DetectedLane Bits) : CurseNode Bits :=
  { node with lanes := Function.update node.lanes laneId lane }

/-- What a chain status worker publishes joins the log. -/
def publishChainStatus (node : CurseNode Bits) (chain : ChainName)
    (chainStatus : ChainStatus) : CurseNode Bits :=
  { node with
    latestChainStatus :=
      Function.update node.latestChainStatus chain (some chainStatus)
    stableTips :=
      match chainStatus with
      | .finalityViolated => node.stableTips
      | .good tail => Function.update node.stableTips chain
          (node.stableTips chain ++ [tail.stableTip]) }

def iterateSource (keccak : Keccak) (worker : SourceBlessWorker) (fuel : Nat)
    (iteration : WorkerIteration) : SourceBlessWorker :=
  letI := VersionedCcipSendRequestFilter.decoding keccak
  letI := SourceBlessState.hashing keccak
  (worker.iterate fuel iteration).1

def iterateDest (worker : DestOffRampWorker Bits) (fuel : Nat)
    (iteration : WorkerIteration) : DestOffRampWorker Bits :=
  (worker.iterate fuel iteration).1

/-- A pass of the lane's detector. -/
def detect (node : CurseNode Bits) (laneId : LaneId) (source : SourceView) :
    CurseNode Bits :=
  { node.setLane laneId
      { node.lanes laneId with
        offrampAnomalyDetector :=
          (node.lanes laneId).offrampAnomalyDetector.pass source
            (node.lanes laneId).destOfframpWorker.unstableCesm.state
            (node.lanes laneId).destOfframpWorker.stableCesm.state } with
    passes := Function.update node.passes laneId
      (node.passes laneId ++ [source]) }

/-- The monitor copies the map. -/
def beginUpdate (node : CurseNode Bits) : CurseNode Bits :=
  { node with
    updating := some
      { chains := node.curseBeacon.chainStatusWorkers
        lanes := node.curseBeacon.offrampAnomalyDetectors
        localCursableAnomalies := node.curseBeacon.cursableAnomalies } }

/-- A turn of the loop over the chains.  The view is what the threads have
published at this moment. -/
def noteChain (node : CurseNode Bits) (view : BeaconView) (chain : ChainName)
    (update : BeaconUpdate) : CurseNode Bits :=
  { node with
    updating := some
      { update with
        localCursableAnomalies := node.curseBeacon.noteChainStatus view
          update.localCursableAnomalies chain } }

/-- A turn of the loop over the lanes. -/
def noteLane (node : CurseNode Bits) (view : BeaconView) (laneId : LaneId)
    (update : BeaconUpdate) : CurseNode Bits :=
  { node with
    updating := some
      { update with
        localCursableAnomalies := CurseBeacon.noteOffRampAnomalies view
          update.localCursableAnomalies laneId } }

/-- The monitor stores its copy. -/
def publishUpdate (node : CurseNode Bits)
    (anomalies : CursableAnomaliesWithCurseIds) : CurseNode Bits :=
  { node with
    curseBeacon := { node.curseBeacon with cursableAnomalies := anomalies }
    updating := none
    updates := node.updates + 1 }

/-- The view of the monitor at this moment, but for the order in which it goes
through a set and for its random bytes. -/
structure Views (node : CurseNode Bits) (view : BeaconView) : Prop where
  latestChainStatus : view.latestChainStatus = node.latestChainStatus
  anomalies : ∀ laneId anomaly, anomaly ∈ view.anomalies laneId ↔
    anomaly ∈ (node.lanes laneId).offrampAnomalyDetector.anomalies

/-- One step of one thread. -/
inductive Step (setup : CurseSetup) (answers : ChainAnswers) :
    CurseNode Bits → CurseNode Bits → Prop where
  | pollChain (node : CurseNode Bits) {chain : ChainName}
      {chainConfig : SharedChainConfig} {rpc : BlockRpc}
      {isDone : Nat → Bool} {fuel : Nat} {chainStatus : ChainStatus}
      (isChain : setup.config.sharedConfigByEnabledChain.lookup chain =
        some chainConfig)
      (records : rpc.Records (answers.Fetched chain)
        (answers.Finalized chain))
      (polled : chainConfig.stability.chainStatusUpdater.poll rpc isDone fuel
        (node.latestChainStatus chain) = .ok chainStatus) :
      Step setup answers node (node.publishChainStatus chain chainStatus)
  | source (node : CurseNode Bits) (laneId : LaneId) (fuel : Nat)
      {iteration : WorkerIteration}
      (follows : iteration.chainStatus =
        node.latestChainStatus laneId.sourceChainName)
      (serves : iteration.Serves (answers.SourceLog laneId)) :
      Step setup answers node (node.setLane laneId
        { node.lanes laneId with
          sourceBlessWorker := iterateSource setup.keccak
            (node.lanes laneId).sourceBlessWorker fuel iteration })
  | dest (node : CurseNode Bits) (laneId : LaneId) (fuel : Nat)
      {iteration : WorkerIteration}
      (follows : iteration.chainStatus =
        node.latestChainStatus laneId.destChainName)
      (serves : iteration.Serves (answers.DestLog laneId)) :
      Step setup answers node (node.setLane laneId
        { node.lanes laneId with
          destOfframpWorker := iterateDest
            (node.lanes laneId).destOfframpWorker fuel iteration })
  | detect (node : CurseNode Bits) (laneId : LaneId)
      (maxFreshBlockAge : TimeUnit) (unstableNow stableNow : Nat) :
      Step setup answers node (node.detect laneId
        ((node.lanes laneId).sourceBlessWorker.view maxFreshBlockAge
          unstableNow stableNow))
  | takeReapable (node : CurseNode Bits) (laneId : LaneId) :
      Step setup answers node (node.setLane laneId
        { node.lanes laneId with
          offrampAnomalyDetector :=
            { (node.lanes laneId).offrampAnomalyDetector with
              seqNrsWithReapableMsgIds := ∅ }
          taken := (node.lanes laneId).offrampAnomalyDetector
            |>.seqNrsWithReapableMsgIds })
  | reap (node : CurseNode Bits) (laneId : LaneId) :
      Step setup answers node (node.setLane laneId
        { node.lanes laneId with
          destOfframpWorker :=
            { (node.lanes laneId).destOfframpWorker with
              stableCesm :=
                { (node.lanes laneId).destOfframpWorker.stableCesm with
                  state := (node.lanes laneId).destOfframpWorker.stableCesm
                    |>.state.reapMessageIds (node.lanes laneId).taken } } })
  | beginUpdate {node : CurseNode Bits} (idle : node.updating = none) :
      Step setup answers node node.beginUpdate
  | noteChain {node : CurseNode Bits} {view : BeaconView} {chain : ChainName}
      {update : BeaconUpdate} (views : node.Views view)
      (reading : node.updating =
        some { update with chains := chain :: update.chains }) :
      Step setup answers node (node.noteChain view chain update)
  | noteLane {node : CurseNode Bits} {view : BeaconView} {laneId : LaneId}
      {update : BeaconUpdate} (views : node.Views view)
      (chainsRead : update.chains = [])
      (reading : node.updating =
        some { update with lanes := laneId :: update.lanes }) :
      Step setup answers node (node.noteLane view laneId update)
  | publishUpdate {node : CurseNode Bits}
      {anomalies : CursableAnomaliesWithCurseIds}
      (read : node.updating = some ⟨[], [], anomalies⟩) :
      Step setup answers node (node.publishUpdate anomalies)

end CurseNode

end Steps

end RiskManagement
