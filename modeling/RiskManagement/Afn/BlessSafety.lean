import RiskManagement.Afn.BlessNode
import RiskManagement.Afn.EventFilters
import RiskManagement.Afn.VoteLog

/-!
# Safety of blessing

However the threads of the node take turns, a root that it votes for is the
Merkle root of messages that the source chain's logs contain, committed by a
log of the destination chain, and its lane was not cursed when it was checked.
-/

namespace RiskManagement

open Relation (ReflTransGen)

namespace BlessNode

/-- The lane of a commit store is the only one with that store. -/
theorem laneId_of_commitStore {setup : BlessSetup} {laneId found : LaneId}
    {laneConfig : SharedLaneConfig}
    (isLane : setup.laneConfigs.lookup laneId = some laneConfig)
    (isFound : setup.voterConfig.laneIdByCommitStore laneConfig.commitStore =
      some found) : found = laneId := by
  obtain ⟨sharedChainConfigs, sharedLaneConfigs, localChainConfigs, isNew⟩ :=
    setup.accepted
  obtain ⟨accepted, built⟩ := OffchainConfig.new_eq_ok_iff.mp isNew
  have parts : setup.config.Partitions sharedChainConfigs sharedLaneConfigs
      localChainConfigs := by
    rw [← built]
    exact OffchainConfig.build_partitions accepted
  obtain ⟨laneFound, isDest⟩ := OffchainConfig.lookup_laneConfigs.mp isLane
  obtain ⟨other, otherFound, otherDest, sameStore⟩ :=
    (parts.lookup_laneIdByCommitStore accepted.commitStores).mp isFound
  exact parts.commitStore_injective accepted.commitStores otherFound laneFound
    (otherDest.trans isDest.symm) sameStore

theorem laneIsCursed_of_run {beacon grown : CurseBeacon} {laneId : LaneId}
    (run : ReflTransGen CurseBeacon.Updates beacon grown)
    (cursed : beacon.laneIsCursed laneId = true) :
    grown.laneIsCursed laneId = true := by
  obtain ⟨anomaly, curseId, found, isLane⟩ :=
    CurseBeacon.laneIsCursed_eq_true_iff.mp cursed
  exact CurseBeacon.laneIsCursed_eq_true_iff.mpr
    ⟨anomaly, curseId, CurseBeacon.run_extends run _ _ found, isLane⟩

/-- The votes that joined the log are all for other lanes. -/
def SparesLane (laneId : LaneId) (node later : BlessNode) : Prop :=
  ∃ votes, later.voter.votes = node.voter.votes ++ votes ∧
    ∀ vote ∈ votes, ∀ admission ∈ vote.admissions,
      admission.laneId ≠ laneId

theorem sparesLane_of_votes_eq {laneId : LaneId} {node later : BlessNode}
    (same : later.voter.votes = node.voter.votes) :
    SparesLane laneId node later :=
  ⟨[], by simp [same], by simp⟩

theorem SparesLane.trans {laneId : LaneId} {node later last : BlessNode}
    (first : SparesLane laneId node later)
    (second : SparesLane laneId later last) :
    SparesLane laneId node last := by
  obtain ⟨votes, logged, spared⟩ := first
  obtain ⟨more, moreLogged, moreSpared⟩ := second
  refine ⟨votes ++ more, ?_, ?_⟩
  · rw [moreLogged, logged, List.append_assoc]
  · exact List.forall_mem_append.mpr ⟨spared, moreSpared⟩

section Votes

variable [ContractEventFilter VersionedCcipSendRequestFilter
    CcipSendRequestedEventUnion]
  [ContractEventFilter VersionedDestEventFilter DestEventUnion]
  {setup : BlessSetup} {SourceLog DestLog : LaneId → EVMLog → Prop}
  {node later : BlessNode}

/-- The evidence for a root of a lane. -/
def Evidence (setup : BlessSetup)
    (SourceLog DestLog : LaneId → EVMLog → Prop) (laneId : LaneId)
    (taggedRoot : TaggedRoot) : Prop :=
  ∃ laneConfig messageMetadata,
    setup.laneConfigs.lookup laneId = some laneConfig ∧
      laneConfig.messageMetadata = some messageMetadata ∧
        BlessEvidence setup.keccak messageMetadata laneConfig.commitStore
          (DecodesFrom laneConfig.sourceFilter (SourceLog laneId))
          (DecodesFrom laneConfig.destFilter (DestLog laneId)) taggedRoot

/-! ### The lanes -/

/-- What a lane's workers know, and what they have published, rests on the
logs of its two chains. -/
structure LaneSound (setup : BlessSetup)
    (SourceLog DestLog : LaneId → EVMLog → Prop) (laneId : LaneId)
    (laneConfig : SharedLaneConfig) (messageMetadata : MessageMetadata)
    (lane : LaneWorkers) : Prop where
  source : lane.sourceBlessWorker.Satisfies laneConfig.sourceFilter
    (SourceBlessState.AcceptedFrom setup.keccak messageMetadata
      laneConfig.sourceFilter
      (DecodesFrom laneConfig.sourceFilter (SourceLog laneId)))
  dest : lane.destBlessWorker.Satisfies laneConfig.destFilter
    ((setup.initialDest laneConfig).AcceptedFrom laneConfig.destFilter
      (DecodesFrom laneConfig.destFilter (DestLog laneId)))
  published : ∀ status, lane.laneBlessStatus = some status →
    ∀ taggedRoot ∈ status.verifiedTaggedRoots,
      BlessEvidence setup.keccak messageMetadata laneConfig.commitStore
        (DecodesFrom laneConfig.sourceFilter (SourceLog laneId))
        (DecodesFrom laneConfig.destFilter (DestLog laneId)) taggedRoot

section Lane

variable {laneId : LaneId} {laneConfig : SharedLaneConfig}
  {messageMetadata : MessageMetadata} {lane : LaneWorkers}

theorem laneSound_spawn :
    LaneSound setup SourceLog DestLog laneId laneConfig messageMetadata
      (setup.spawnLane laneConfig messageMetadata) where
  source := UnstableContractEventStateMachineWorker.satisfies_spawn
    ⟨rfl, SourceBlessState.new_acceptedFrom _⟩
  dest := UnstableContractEventStateMachineWorker.satisfies_spawn
    ⟨rfl, DestBlessState.acceptedFrom_self _⟩
  published := by
    intro status isPublished
    cases isPublished

theorem LaneSound.iterateSource
    (sound : LaneSound setup SourceLog DestLog laneId laneConfig
      messageMetadata lane)
    {iteration : WorkerIteration}
    (serves : iteration.Serves (SourceLog laneId)) (fuel : Nat) :
    LaneSound setup SourceLog DestLog laneId laneConfig messageMetadata
      { lane with
        sourceBlessWorker := BlessNode.iterateSource setup.keccak
          lane.sourceBlessWorker fuel iteration } :=
  { sound with
    source :=
      letI := SourceBlessState.hashing setup.keccak
      sound.source.iterate (SourceBlessState.acceptedFrom_kept _) serves
        fuel }

theorem LaneSound.iterateDest
    (sound : LaneSound setup SourceLog DestLog laneId laneConfig
      messageMetadata lane)
    {iteration : WorkerIteration}
    (serves : iteration.Serves (DestLog laneId)) (fuel : Nat) :
    LaneSound setup SourceLog DestLog laneId laneConfig messageMetadata
      { lane with
        destBlessWorker := BlessNode.iterateDest lane.destBlessWorker fuel
          iteration } :=
  { sound with
    dest := sound.dest.iterate (DestBlessState.acceptedFrom_kept _) serves
      fuel }

theorem LaneSound.publish
    (sound : LaneSound setup SourceLog DestLog laneId laneConfig
      messageMetadata lane) :
    LaneSound setup SourceLog DestLog laneId laneConfig messageMetadata
      { lane with
        laneBlessStatus := some (latestLaneBlessStatus setup.keccak
          lane.sourceBlessWorker lane.destBlessWorker) } :=
  { sound with
    published := by
      intro status isPublished taggedRoot verified
      cases isPublished
      exact evidence_of_verified rfl sound.source.stable.holds
        sound.dest.unstable.holds verified }

end Lane

/-! ### The node -/

/-- A voted root has its evidence. -/
def VotesRest (setup : BlessSetup)
    (SourceLog DestLog : LaneId → EVMLog → Prop)
    (votes : List (VotedBatch LaneId)) : Prop :=
  ∀ vote ∈ votes, ∀ admission ∈ vote.admissions,
    Evidence setup SourceLog DestLog admission.laneId admission.taggedRoot

/-- The invariant of the node. -/
structure Sound (setup : BlessSetup)
    (SourceLog DestLog : LaneId → EVMLog → Prop) (node : BlessNode) :
    Prop where
  lanes : ∀ laneId laneConfig,
    setup.laneConfigs.lookup laneId = some laneConfig →
      ∃ messageMetadata, laneConfig.messageMetadata = some messageMetadata ∧
        LaneSound setup SourceLog DestLog laneId laneConfig messageMetadata
          (node.lanes laneId)
  voter : VoteToBlessWorker.Reachable setup.world setup.voterConfig node.voter
  votes : VotesRest setup SourceLog DestLog node.voter.votes

theorem Started.sound (started : node.Started setup) :
    node.Sound setup SourceLog DestLog where
  lanes := by
    intro laneId laneConfig isLane
    obtain ⟨messageMetadata, isMetadata, spawned⟩ :=
      started.lanes laneId laneConfig isLane
    refine ⟨messageMetadata, isMetadata, ?_⟩
    rw [spawned]
    exact laneSound_spawn
  voter := by
    rw [started.voter]
    exact .start
  votes := by
    intro vote member
    rw [started.voter] at member
    cases member

theorem Sound.setLane (sound : node.Sound setup SourceLog DestLog)
    (laneId : LaneId) {lane : LaneWorkers}
    (kept : ∀ laneConfig messageMetadata,
      LaneSound setup SourceLog DestLog laneId laneConfig messageMetadata
        (node.lanes laneId) →
      LaneSound setup SourceLog DestLog laneId laneConfig messageMetadata
        lane) :
    (node.setLane laneId lane).Sound setup SourceLog DestLog :=
  { sound with
    lanes := by
      intro other laneConfig isLane
      obtain ⟨messageMetadata, isMetadata, laneSound⟩ :=
        sound.lanes other laneConfig isLane
      refine ⟨messageMetadata, isMetadata, ?_⟩
      simp only [BlessNode.setLane]
      by_cases same : other = laneId
      · subst same
        rw [Function.update_self]
        exact kept laneConfig messageMetadata laneSound
      · rw [Function.update_of_ne same]
        exact laneSound }

/-- A root that a poll finds votable has its evidence, in its own lane. -/
theorem Sound.votable (sound : node.Sound setup SourceLog DestLog)
    {sortedLaneIds : List LaneId}
    (sorted : sortedLaneIds.Perm setup.laneConfigs.keys)
    {statusChecks : LaneId → Bool} {taggedRoot : TaggedRoot}
    (votable : taggedRoot ∈ getRootsToBless
      (node.laneBlessStatuses sortedLaneIds) statusChecks) {found : LaneId}
    (isFound : setup.voterConfig.laneIdByCommitStore taggedRoot.commitStore =
      some found) :
    Evidence setup SourceLog DestLog found taggedRoot := by
  obtain ⟨status, collected, verified⟩ := List.mem_flatMap.mp votable
  obtain ⟨⟨laneId, published⟩, member, isStatus⟩ :=
    List.mem_filterMap.mp collected
  obtain ⟨laneId, isSorted, isPair⟩ := List.mem_map.mp member
  cases isPair
  simp only at isStatus
  split at isStatus
  · obtain ⟨laneConfig, isLane⟩ := EntryMap.mem_iff.mp
      (AList.mem_keys.mpr (sorted.mem_iff.mp isSorted))
    obtain ⟨messageMetadata, isMetadata, laneSound⟩ :=
      sound.lanes laneId laneConfig isLane
    have evidence := laneSound.published status isStatus taggedRoot verified
    rw [evidence.sameStore] at isFound
    cases laneId_of_commitStore isLane isFound
    exact ⟨laneConfig, messageMetadata, isLane, isMetadata, evidence⟩
  · cases isStatus

theorem Sound.poll (sound : node.Sound setup SourceLog DestLog)
    {sortedLaneIds : List LaneId}
    (sorted : sortedLaneIds.Perm setup.laneConfigs.keys)
    {statusChecks : LaneId → Bool} {fuel : Nat} {delay : Option Nat}
    {after : VoteToBlessWorker LaneId} {ends : CurseBeacon}
    {result : Except VoteToBlessError Nat}
    (polled : node.voter.poll setup.world setup.voterConfig fuel
      (getRootsToBless (node.laneBlessStatuses sortedLaneIds) statusChecks)
      delay = some (after, result)) :
    Sound setup SourceLog DestLog
      { node with curseBeacon := ends, voter := after } where
  lanes := sound.lanes
  voter := .poll sound.voter polled
  votes := by
    obtain ⟨_, votes, logged, made⟩ :=
      VoteToBlessWorker.poll_advanced polled
    have passed := (VoteToBlessWorker.Reachable.poll sound.voter
      polled).sound.disciplined
    intro vote member admission admitted
    have isPassed := (passed vote member).passed admission admitted
    simp only [logged] at member
    rcases List.mem_append.mp member with earlier | new
    · exact sound.votes vote earlier admission admitted
    · have isVotable := isPassed.votable
      rw [(made vote new).sameVotable] at isVotable
      exact sound.votable sorted isVotable isPassed.lane

theorem Step.sound (step : Step setup SourceLog DestLog node later)
    (sound : node.Sound setup SourceLog DestLog) :
    later.Sound setup SourceLog DestLog := by
  cases step with
  | source laneId fuel serves =>
      exact sound.setLane laneId fun _ _ laneSound =>
        laneSound.iterateSource serves fuel
  | dest laneId fuel serves =>
      exact sound.setLane laneId fun _ _ laneSound =>
        laneSound.iterateDest serves fuel
  | publish laneId =>
      exact sound.setLane laneId fun _ _ laneSound => laneSound.publish
  | update view => exact { sound with }
  | poll sorted beacons polled => exact sound.poll sorted polled

theorem run_sound
    (run : ReflTransGen (Step setup SourceLog DestLog) node later)
    (sound : node.Sound setup SourceLog DestLog) :
    later.Sound setup SourceLog DestLog := by
  induction run with
  | refl => exact sound
  | tail _ step ih => exact step.sound ih

/-- Every root of every batch, whatever became of the batch, is the Merkle
root of the messages of an interval that was committed for its lane, and all
of this stands in logs of the lane's two chains. -/
theorem every_voted_root_has_evidence {start : BlessNode}
    (started : start.Started setup)
    (run : ReflTransGen (Step setup SourceLog DestLog) start node) :
    ∀ vote ∈ node.voter.votes, ∀ admission ∈ vote.admissions,
      ∃ laneConfig messageMetadata,
        setup.laneConfigs.lookup admission.laneId = some laneConfig ∧
          laneConfig.messageMetadata = some messageMetadata ∧
            BlessEvidence setup.keccak messageMetadata laneConfig.commitStore
              (DecodesFrom laneConfig.sourceFilter
                (SourceLog admission.laneId))
              (DecodesFrom laneConfig.destFilter (DestLog admission.laneId))
              admission.taggedRoot :=
  (run_sound run started.sound).votes

end Votes

/-! ### A lane with one message -/

def sampleLane : SharedLaneConfig :=
  { OffchainConfig.sampleLane with
    laneId := ⟨.sepolia, .optimismSepolia, "lane"⟩ }

/-- One lane between two chains. -/
def sampleConfig : OffchainConfig :=
  .build
    (EntryMap.collect ([OffchainConfig.sampleChain .optimismSepolia,
      OffchainConfig.sampleChain .sepolia].map fun c => (c.name, c)))
    [sampleLane]
    (EntryMap.collect
      ([⟨.sepolia, false, []⟩, ⟨.optimismSepolia, false, []⟩].map
        fun c : LocalChainConfig => (c.name, c)))

theorem sampleConfig_accepted :
    OffchainConfig.new [OffchainConfig.sampleChain .optimismSepolia,
        OffchainConfig.sampleChain .sepolia] [sampleLane]
      [⟨.sepolia, false, []⟩, ⟨.optimismSepolia, false, []⟩] =
        .ok sampleConfig :=
  OffchainConfig.new_eq_ok_iff.mpr ⟨
    { localNames := by decide
      sharedNames := by decide
      sameChains := fun chain => by cases chain <;> decide
      laneIds := by decide
      commitStores := by decide
      lanes := by decide }, rfl⟩

/-- The chain takes every vote, and the beacon does not change. -/
def sampleSetup (beacon : CurseBeacon) : BlessSetup where
  keccak := lengthHash
  config := sampleConfig
  accepted := ⟨_, _, _, sampleConfig_accepted⟩
  destChain := .optimismSepolia
  afnContract := .replicate 20 7
  onchainConfigVersion := 1
  voteToBlessAddress := .replicate 20 8
  maxTaggedRootsPerVoteToBless := 16
  inflightTime := 300
  pollInterval := 60
  mode := .active
  world := {
    now := fun asked => 120 + asked
    monotone := fun _ _ later => Nat.add_le_add_left later 120
    isDone := fun _ => false
    laneIsCursed := fun _ => beacon.laneIsCursed
    sendVoteToBless := fun _ _ => true }

def sampleMetadata : MessageMetadata where
  onrampAddress := .replicate 20 2
  sourceChainSelector := (chainSelector .sepolia).getD 0
  destChainSelector := (chainSelector .optimismSepolia).getD 0

def sampleMessageId : Bytes32 :=
  ((emptyMessage zeroHash).hash lengthHash sampleMetadata).value

/-- Words of calldata. -/
def sampleWords (numbers : List Nat) : List UInt8 :=
  numbers.flatMap (BigEndian.digits 32)

def sampleAddress (byte : UInt8) : List UInt8 :=
  List.replicate 12 0 ++ List.replicate 20 byte

def sampleBlock : Block where
  number := 1
  hash := .replicate 32 1
  parentHash := .replicate 32 0
  timestamp := 0

/-- The message is sent. -/
def sentLog : EVMLog where
  logIndex := 0
  address := .replicate 20 2
  data := ⟨⟨sampleWords [32, 1, 1, 0] ++ sampleAddress 1 ++
    sampleWords [1, 0, 0] ++ sampleAddress 2 ++ sampleWords [384, 416] ++
    sampleAddress 3 ++ sampleMessageId.data ++ sampleWords [0, 0],
    by decide +kernel⟩⟩
  topics := [logTopic lengthHash CcipSendRequestedEventV1_0]
  blockHash := sampleBlock.hash
  blockNumber := sampleBlock.number

/-- And committed. -/
def committedLog : EVMLog where
  logIndex := 0
  address := .replicate 20 1
  data := ⟨⟨sampleWords [32, 128, 1, 1] ++ sampleMessageId.data ++
    sampleWords [96, 1, 0, 0], by decide +kernel⟩⟩
  topics := [logTopic lengthHash ReportAcceptedEventV1_0]
  blockHash := sampleBlock.hash
  blockNumber := sampleBlock.number

/-- An iteration that finds the log finalized. -/
def sampleIteration (log : EVMLog) : WorkerIteration where
  chainStatus := some (.good (.single sampleBlock))
  stableAnswers _ _ toBlock _ := .ok ⟨toBlock, [log]⟩
  unstableAnswers _ _ toBlock _ := .ok ⟨toBlock, []⟩

theorem sampleIteration_serves (log : EVMLog) :
    (sampleIteration log).Serves (fun served => served = log) where
  stable := by
    intro pass fromBlock toBlock cache page answered served member
    cases answered
    exact List.mem_singleton.mp member
  unstable := by
    intro pass fromBlock toBlock cache page answered served member
    cases answered
    cases member

section Sample

variable (beacon : CurseBeacon)

/-- The node that the run begins with. -/
def sampleStart : BlessNode where
  lanes _ := (sampleSetup beacon).spawnLane sampleLane sampleMetadata
  curseBeacon := beacon
  voter := .start (sampleSetup beacon).voterConfig

theorem sampleStart_started :
    (sampleStart beacon).Started (sampleSetup beacon) where
  lanes := by
    intro laneId laneConfig isLane
    have member : (⟨laneId, laneConfig⟩ : Sigma fun _ => SharedLaneConfig) ∈
        (sampleSetup beacon).laneConfigs.entries :=
      AList.mem_lookup_iff.mp isLane
    have entries : (sampleSetup beacon).laneConfigs.entries =
        [⟨sampleLane.laneId, sampleLane⟩] := rfl
    rw [entries] at member
    cases List.mem_singleton.mp member
    exact ⟨sampleMetadata, rfl, rfl⟩
  voter := rfl

/-- The source worker has read the message. -/
def sourceSynced : BlessNode :=
  let _ := VersionedCcipSendRequestFilter.decoding lengthHash
  (sampleStart beacon).setLane sampleLane.laneId
    { (sampleStart beacon).lanes sampleLane.laneId with
      sourceBlessWorker := iterateSource lengthHash
        ((sampleStart beacon).lanes sampleLane.laneId).sourceBlessWorker 1
        (sampleIteration sentLog) }

/-- The destination worker has read the commitment of its root. -/
def destSynced : BlessNode :=
  let _ := VersionedDestEventFilter.decoding lengthHash
  (sourceSynced beacon).setLane sampleLane.laneId
    { (sourceSynced beacon).lanes sampleLane.laneId with
      destBlessWorker := iterateDest
        ((sourceSynced beacon).lanes sampleLane.laneId).destBlessWorker 1
        (sampleIteration committedLog) }

/-- The root is put up for a vote. -/
def published : BlessNode :=
  (destSynced beacon).setLane sampleLane.laneId
    { (destSynced beacon).lanes sampleLane.laneId with
      laneBlessStatus := some (latestLaneBlessStatus lengthHash
        ((destSynced beacon).lanes sampleLane.laneId).sourceBlessWorker
        ((destSynced beacon).lanes sampleLane.laneId).destBlessWorker) }

/-- The poll that votes for the root. -/
def samplePoll :
    Option (VoteToBlessWorker LaneId × Except VoteToBlessError Nat) :=
  (published beacon).voter.poll (sampleSetup beacon).world
    (sampleSetup beacon).voterConfig 4
    (getRootsToBless
      ((published beacon).laneBlessStatuses [sampleLane.laneId])
      beacon.laneIsCursed) (some 0)

def polled (after : VoteToBlessWorker LaneId) : BlessNode :=
  { published beacon with voter := after }

/-- The two chains have these logs. -/
def SampleStep : BlessNode → BlessNode → Prop :=
  letI := VersionedCcipSendRequestFilter.decoding lengthHash
  letI := VersionedDestEventFilter.decoding lengthHash
  Step (sampleSetup beacon) (fun _ log => log = sentLog)
    (fun _ log => log = committedLog)

theorem sample_run {after : VoteToBlessWorker LaneId}
    {result : Except VoteToBlessError Nat}
    (returned : samplePoll beacon = some (after, result)) :
    ReflTransGen (SampleStep beacon) (sampleStart beacon)
      (polled beacon after) := by
  let _ := VersionedCcipSendRequestFilter.decoding lengthHash
  let _ := VersionedDestEventFilter.decoding lengthHash
  have sent : SampleStep beacon (sampleStart beacon) (sourceSynced beacon) :=
    .source _ sampleLane.laneId 1 (sampleIteration_serves sentLog)
  have committed : SampleStep beacon (sourceSynced beacon)
      (destSynced beacon) :=
    .dest _ sampleLane.laneId 1 (sampleIteration_serves committedLog)
  have verified : SampleStep beacon (destSynced beacon) (published beacon) :=
    .publish _ sampleLane.laneId
  have beacons : BeaconsOfPoll (sampleSetup beacon) (published beacon) after
      beacon beacon.laneIsCursed :=
    { statuses := fun _ => ⟨beacon, .refl, .refl, rfl⟩
      answers := fun _ _ _ => ⟨beacon, .refl, .refl, fun _ => rfl⟩
      ends := .refl }
  have voted : SampleStep beacon (published beacon) (polled beacon after) :=
    .poll (.refl [sampleLane.laneId]) beacons returned
  exact .tail (.tail (.tail (.single sent) committed) verified) voted

end Sample

def calmBeacon : CurseBeacon :=
  .new [] [] ∅ none fun _ => .replicate 32 0

theorem every_voted_root_has_evidence_sample :
    ∃ node : BlessNode, node.voter.votes.map VotedBatch.batch =
        [[⟨.replicate 20 1, sampleMessageId⟩]] ∧
      ∀ vote ∈ node.voter.votes, ∀ admission ∈ vote.admissions,
        letI := VersionedCcipSendRequestFilter.decoding lengthHash
        letI := VersionedDestEventFilter.decoding lengthHash
        Evidence (sampleSetup calmBeacon) (fun _ log => log = sentLog)
          (fun _ log => log = committedLog) admission.laneId
          admission.taggedRoot := by
  let _ := VersionedCcipSendRequestFilter.decoding lengthHash
  let _ := VersionedDestEventFilter.decoding lengthHash
  have computed : (samplePoll calmBeacon).map
      (fun polled => polled.1.votes.map VotedBatch.batch) =
        some [[⟨.replicate 20 1, sampleMessageId⟩]] := by decide +kernel
  obtain ⟨⟨after, result⟩, returned, voted⟩ :=
    Option.map_eq_some_iff.mp computed
  exact ⟨polled calmBeacon after, voted, every_voted_root_has_evidence
    (sampleStart_started calmBeacon) (sample_run calmBeacon returned)⟩

/-! ### Curses stop votes -/

section Curses

variable [ContractEventFilter VersionedCcipSendRequestFilter
    CcipSendRequestedEventUnion]
  [ContractEventFilter VersionedDestEventFilter DestEventUnion]
  {setup : BlessSetup} {SourceLog DestLog : LaneId → EVMLog → Prop}
  {node later : BlessNode}

/-- A poll asks about the lane of a root after it has started, and the beacon
has not forgotten the curse by then. -/
theorem Sound.poll_sparesLane (sound : node.Sound setup SourceLog DestLog)
    {laneId : LaneId} (cursed : node.curseBeacon.laneIsCursed laneId = true)
    {statusChecks : LaneId → Bool} {votable : List TaggedRoot} {fuel : Nat}
    {delay : Option Nat} {after : VoteToBlessWorker LaneId}
    {ends : CurseBeacon} {result : Except VoteToBlessError Nat}
    (beacons : BeaconsOfPoll setup node after ends statusChecks)
    (polled : node.voter.poll setup.world setup.voterConfig fuel votable
      delay = some (after, result)) :
    SparesLane laneId node
      { node with curseBeacon := ends, voter := after } := by
  obtain ⟨_, votes, logged, made⟩ := VoteToBlessWorker.poll_advanced polled
  have passed := (VoteToBlessWorker.Reachable.poll sound.voter
    polled).sound.disciplined
  refine ⟨votes, logged, ?_⟩
  intro vote new admission admitted isLane
  have member : vote ∈ after.votes := by
    rw [logged]
    exact List.mem_append_right _ new
  have notCursed := ((passed vote member).passed admission admitted).notCursed
  obtain ⟨asked, answered⟩ := (made vote new).askedNow admission admitted
  obtain ⟨during, grown, _, answer⟩ := beacons.answers _ asked answered
  rw [answer, isLane, laneIsCursed_of_run grown cursed] at notCursed
  cases notCursed

theorem Step.sparesLane (step : Step setup SourceLog DestLog node later)
    (sound : node.Sound setup SourceLog DestLog) {laneId : LaneId}
    (cursed : node.curseBeacon.laneIsCursed laneId = true) :
    later.curseBeacon.laneIsCursed laneId = true ∧
      SparesLane laneId node later := by
  cases step with
  | source _ _ _ => exact ⟨cursed, sparesLane_of_votes_eq rfl⟩
  | dest _ _ _ => exact ⟨cursed, sparesLane_of_votes_eq rfl⟩
  | publish _ => exact ⟨cursed, sparesLane_of_votes_eq rfl⟩
  | update view =>
      exact ⟨laneIsCursed_of_run (.single ⟨view, rfl⟩) cursed,
        sparesLane_of_votes_eq rfl⟩
  | poll sorted beacons polled =>
      exact ⟨laneIsCursed_of_run beacons.ends cursed,
        sound.poll_sparesLane cursed beacons polled⟩

/-- Once the beacon curses a lane, no poll votes for a root of that lane any
more, whatever the workers have published and however the threads take
turns. -/
theorem cursed_lane_gets_no_vote {start : BlessNode}
    (started : start.Started setup)
    (reached : ReflTransGen (Step setup SourceLog DestLog) start node)
    {laneId : LaneId} (cursed : node.curseBeacon.laneIsCursed laneId = true)
    (run : ReflTransGen (Step setup SourceLog DestLog) node later) :
    ∃ votes, later.voter.votes = node.voter.votes ++ votes ∧
      ∀ vote ∈ votes, ∀ admission ∈ vote.admissions,
        admission.laneId ≠ laneId := by
  have sound := run_sound reached started.sound
  have spared : later.curseBeacon.laneIsCursed laneId = true ∧
      SparesLane laneId node later := by
    induction run with
    | refl => exact ⟨cursed, sparesLane_of_votes_eq rfl⟩
    | tail run step ih =>
        obtain ⟨stays, spared⟩ := ih
        obtain ⟨still, more⟩ := step.sparesLane (run_sound run sound) stays
        exact ⟨still, spared.trans more⟩
  exact spared.2

end Curses

def cursedBeacon : CurseBeacon :=
  .new [] [] ∅ (some (.replicate 32 9)) fun _ => .replicate 32 0

theorem cursed_lane_gets_no_vote_sample :
    ∃ later : BlessNode,
      (later.lanes sampleLane.laneId).laneBlessStatus.map
          (fun status => status.verifiedTaggedRoots.length) = some 1 ∧
      ∀ vote ∈ later.voter.votes, ∀ admission ∈ vote.admissions,
        admission.laneId ≠ sampleLane.laneId := by
  let _ := VersionedCcipSendRequestFilter.decoding lengthHash
  let _ := VersionedDestEventFilter.decoding lengthHash
  have cursed : cursedBeacon.laneIsCursed sampleLane.laneId = true := by
    decide +kernel
  have verified :
      ((published cursedBeacon).lanes sampleLane.laneId).laneBlessStatus.map
        (fun status => status.verifiedTaggedRoots.length) = some 1 := by
    decide +kernel
  have computed : (samplePoll cursedBeacon).isSome = true := by decide +kernel
  obtain ⟨⟨after, result⟩, returned⟩ := Option.isSome_iff_exists.mp computed
  obtain ⟨votes, logged, spared⟩ := cursed_lane_gets_no_vote
    (sampleStart_started cursedBeacon) .refl cursed
    (sample_run cursedBeacon returned)
  refine ⟨polled cursedBeacon after, verified, ?_⟩
  rw [logged]
  exact spared

end BlessNode
end RiskManagement
