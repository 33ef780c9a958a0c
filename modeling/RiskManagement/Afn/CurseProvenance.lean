import RiskManagement.Afn.AnomalyCauses
import RiskManagement.Afn.BlessSafety
import RiskManagement.Afn.CurseNode

/-!
# The causes of curses

Every anomaly of the beacon goes back to the operator, to two blocks of a
chain that contradict each other, or to logs of a lane's two chains, however
the threads take turns.
-/

namespace RiskManagement

open Relation (ReflTransGen)

/-- The lookup of one hash finds the message with the number. -/
theorem SourceBlessState.Holds.messageHash {state : SourceBlessState}
    {keccak : Keccak} {messages : List VersionedMessage}
    (holds : state.Holds keccak messages) {seqNr : UInt64} {hash : Bytes32}
    (found : state.messageHash seqNr = some hash) :
    ∃ message ∈ messages, message.sequenceNumber = seqNr ∧
      message.messageId = hash := by
  simp only [SourceBlessState.messageHash, bind, Option.bind_eq_some_iff,
    pure, Option.some.injEq] at found
  obtain ⟨⟨minSeqNr, _⟩, first, idx, offset, ⟨foundNr, _⟩, entry, rfl⟩ := found
  rw [Word64.checkedSub_eq_some_iff] at offset
  rw [holds.entries] at first entry
  rw [List.getElem?_map, Option.map_eq_some_iff] at entry
  obtain ⟨message, atIdx, isEntry⟩ := entry
  obtain ⟨inside, isMessage⟩ := List.getElem?_eq_some_iff.mp atIdx
  have number := holds.sequenceNumber_getElem inside
  rw [isMessage] at number
  have isFirst : minSeqNr = 1 := by
    cases messages with
    | nil => simp at first
    | cons message rest =>
        have head := holds.sequenceNumber_getElem (Nat.zero_lt_succ _)
        simp only [List.map_cons, List.head?_cons, Option.some.injEq,
          Prod.mk.injEq] at first
        rw [← first.1]
        exact head
  subst isFirst
  cases isEntry
  refine ⟨message, List.mem_of_getElem? atIdx, ?_, rfl⟩
  rw [number, ← UInt64.toNat_inj]
  have bound := seqNr.toNat_lt
  have offset : 1 + idx.toNat = seqNr.toNat := offset
  rw [UInt64.toNat_ofNat', Nat.mod_eq_of_lt (by omega)]
  omega

namespace CurseNode

variable {Bits : Type} {setup : CurseSetup}
  {answers : ChainAnswers} {node later : CurseNode Bits}

/-- An execution that a log of the lane's destination decodes to. -/
def Executed (setup : CurseSetup) (answers : ChainAnswers)
    (laneId : LaneId) : ExecutionStateChanged → Prop :=
  DecodesFrom (executionFilter setup.keccak) (answers.DestLog laneId)

/-- A send request that a log of the lane's source decodes to. -/
def Requested (setup : CurseSetup) (answers : ChainAnswers)
    (laneId : LaneId) (laneConfig : SharedLaneConfig) :
    CcipSendRequestedEventUnion → Prop :=
  letI := VersionedCcipSendRequestFilter.decoding setup.keccak
  DecodesFrom laneConfig.sourceFilter (answers.SourceLog laneId)

/-- A message with this number and id was requested, and hashes to the id. -/
def Sent (setup : CurseSetup) (answers : ChainAnswers) (laneId : LaneId)
    (seqNr : UInt64) (messageId : MessageId) : Prop :=
  ∃ laneConfig messageMetadata ev,
    setup.config.sharedConfigByEnabledLane.lookup laneId = some laneConfig ∧
      laneConfig.messageMetadata = some messageMetadata ∧
        Requested setup answers laneId laneConfig ev ∧
          ev.message.sequenceNumber = seqNr ∧
            ev.message.messageId = messageId ∧
              (ev.message.hash setup.keccak messageMetadata).value = messageId

/-- A block that was the stable tip of a published status, or that the chain's
node called finalized. -/
def Settled (answers : ChainAnswers) (node : CurseNode Bits) (chain : ChainName)
    (block : Block) : Prop :=
  block ∈ node.stableTips chain ∨ answers.Finalized chain block

/-- The chain's status shows a violation, and its node has answered with a
block that contradicts a settled one. -/
def Violated (answers : ChainAnswers) (node : CurseNode Bits)
    (chain : ChainName) : Prop :=
  node.latestChainStatus chain = some .finalityViolated ∧
    FinalityConflict (answers.Fetched chain) (node.Settled answers chain)

/-- The lane's detector has found both states of the source synced and without
a message of this number. -/
def LackedBySource (node : CurseNode Bits) (laneId : LaneId)
    (seqNr : UInt64) : Prop :=
  ∃ source ∈ node.passes laneId, source.Lacks seqNr

/-- What stands behind an anomaly of the beacon. -/
def Cause (setup : CurseSetup) (answers : ChainAnswers)
    (node : CurseNode Bits) : CursableAnomaly → Prop
  | .manualCurse curseId => setup.manualCurse = some curseId
  | .finalityViolatedLocalCurse chain =>
      chain ∉ globalCurseChains setup.config ∧ node.Violated answers chain
  | .finalityViolatedGlobalCurse chain =>
      chain ∈ globalCurseChains setup.config ∧ node.Violated answers chain
  | .offRampAnomaly laneId anomaly =>
      laneId ∈ setup.config.enabledLanes ∧
        anomaly.Cause (Executed setup answers laneId)
          (Sent setup answers laneId) (node.LackedBySource laneId)

/-! ### What never changes back -/

/-- What later states of a run keep. -/
structure Grows (node later : CurseNode Bits) : Prop where
  violated : ∀ chain,
    node.latestChainStatus chain = some .finalityViolated →
      later.latestChainStatus chain = some .finalityViolated
  stableTips : ∀ chain, node.stableTips chain ⊆ later.stableTips chain
  passes : ∀ laneId, node.passes laneId ⊆ later.passes laneId

theorem grows_of_same (sameStatus :
      later.latestChainStatus = node.latestChainStatus)
    (sameTips : later.stableTips = node.stableTips)
    (passes : ∀ laneId, node.passes laneId ⊆ later.passes laneId) :
    node.Grows later where
  violated := by
    intro chain violated
    rw [sameStatus]
    exact violated
  stableTips := by
    intro chain
    rw [sameTips]
    exact List.Subset.refl _
  passes := passes

theorem grows_publishChainStatus {chain : ChainName}
    {chainStatus : ChainStatus}
    (stays : node.latestChainStatus chain = some .finalityViolated →
      chainStatus = .finalityViolated) :
    node.Grows (node.publishChainStatus chain chainStatus) where
  violated := by
    intro other violated
    simp only [publishChainStatus]
    by_cases same : other = chain
    · subst same
      rw [Function.update_self, stays violated]
    · rw [Function.update_of_ne same]
      exact violated
  stableTips := by
    intro other
    simp only [publishChainStatus]
    cases chainStatus with
    | finalityViolated => exact List.Subset.refl _
    | good tail =>
        simp only
        by_cases same : other = chain
        · subst same
          rw [Function.update_self]
          exact List.subset_append_left _ _
        · rw [Function.update_of_ne same]
          exact List.Subset.refl _
  passes := fun _ => List.Subset.refl _

theorem grows_detect [BitSet Bits] {laneId : LaneId} {source : SourceView} :
    node.Grows (node.detect laneId source) := by
  refine grows_of_same rfl rfl ?_
  intro other
  simp only [detect]
  by_cases same : other = laneId
  · subst same
    rw [Function.update_self]
    exact List.subset_append_left _ _
  · rw [Function.update_of_ne same]
    exact List.Subset.refl _

theorem poll_of_violated {updater : ChainStatusUpdater} {rpc : BlockRpc}
    {isDone : Nat → Bool} {fuel : Nat} {chainStatus : ChainStatus}
    (polled : updater.poll rpc isDone fuel (some .finalityViolated) =
      .ok chainStatus) : chainStatus = .finalityViolated := by
  rw [ChainStatusUpdater.poll, updater.update_finalityViolated] at polled
  cases polled
  rfl

theorem initial_ne_finalityViolated {updater : ChainStatusUpdater}
    {rpc : BlockRpc} {isDone : Nat → Bool} {fuel : Nat}
    {chainStatus : ChainStatus}
    (polled : updater.poll rpc isDone fuel none = .ok chainStatus) :
    chainStatus ≠ .finalityViolated := by
  have finishes : ∀ blocks, Rebuilt.finish (.deque blocks) =
      .ok chainStatus → chainStatus ≠ .finalityViolated := by
    intro blocks finished
    rw [Rebuilt.finish] at finished
    split at finished
    · cases finished
    · cases finished
      simp
  cases updater with
  | confirmationDepth updater =>
      obtain ⟨block, _, finished⟩ := Checked.bind_eq_ok_iff.mp polled
      exact finishes [block] finished
  | finalityTag =>
      obtain ⟨block, _, finished⟩ := Checked.bind_eq_ok_iff.mp polled
      exact finishes [block] finished

theorem Step.grows [BitSet Bits] (step : Step setup answers node later) :
    node.Grows later := by
  cases step with
  | pollChain _ _ polled =>
      apply grows_publishChainStatus
      intro violated
      rw [violated] at polled
      exact poll_of_violated polled
  | source _ _ _ _ => exact grows_of_same rfl rfl fun _ => .refl _
  | dest _ _ _ _ => exact grows_of_same rfl rfl fun _ => .refl _
  | detect _ _ _ _ => exact grows_detect
  | takeReapable _ => exact grows_of_same rfl rfl fun _ => .refl _
  | reap _ => exact grows_of_same rfl rfl fun _ => .refl _
  | beginUpdate _ => exact grows_of_same rfl rfl fun _ => .refl _
  | noteChain _ _ => exact grows_of_same rfl rfl fun _ => .refl _
  | noteLane _ _ _ => exact grows_of_same rfl rfl fun _ => .refl _
  | publishUpdate _ => exact grows_of_same rfl rfl fun _ => .refl _

theorem LackedBySource.mono {laneId : LaneId} {seqNr : UInt64}
    (lacked : node.LackedBySource laneId seqNr) (grows : node.Grows later) :
    later.LackedBySource laneId seqNr := by
  obtain ⟨source, isPass, lacks⟩ := lacked
  exact ⟨source, grows.passes laneId isPass, lacks⟩

theorem Violated.mono {chain : ChainName}
    (violated : node.Violated answers chain) (grows : node.Grows later) :
    later.Violated answers chain := by
  refine ⟨grows.violated chain violated.1, violated.2.mono ?_⟩
  intro block settled
  exact settled.imp (fun isTip => grows.stableTips chain isTip) id

theorem Cause.mono {anomaly : CursableAnomaly}
    (cause : node.Cause setup answers anomaly) (grows : node.Grows later) :
    later.Cause setup answers anomaly := by
  cases anomaly with
  | manualCurse curseId => exact cause
  | finalityViolatedLocalCurse chain => exact ⟨cause.1, cause.2.mono grows⟩
  | finalityViolatedGlobalCurse chain => exact ⟨cause.1, cause.2.mono grows⟩
  | offRampAnomaly laneId anomaly =>
      exact ⟨cause.1, cause.2.mono fun _ lacked => lacked.mono grows⟩

/-! ### The lanes -/

/-- What a lane's workers and its detector know rests on the lane's logs. -/
structure LaneSound [BitSet Bits] (setup : CurseSetup) (answers : ChainAnswers)
    (laneId : LaneId) (Lacking : UInt64 → Prop)
    (laneConfig : SharedLaneConfig) (messageMetadata : MessageMetadata)
    (lane : DetectedLane Bits) : Prop where
  source : lane.sourceBlessWorker.Satisfies laneConfig.sourceFilter
    (SourceBlessState.AcceptedFrom setup.keccak messageMetadata
      laneConfig.sourceFilter (Requested setup answers laneId laneConfig))
  dest : lane.destOfframpWorker.Satisfies (executionFilter setup.keccak)
    (DestOffRampState.ExplainedBy (Executed setup answers laneId))
  anomalies : ∀ anomaly ∈ lane.offrampAnomalyDetector.anomalies,
    anomaly.Cause (Executed setup answers laneId)
      (Sent setup answers laneId) Lacking

section Lane

variable [BitSet Bits] {laneId : LaneId} {Lacking Lacked : UInt64 → Prop}
  {laneConfig : SharedLaneConfig} {messageMetadata : MessageMetadata}
  {lane : DetectedLane Bits}

theorem laneSound_spawn [LawfulBitSet Bits] :
    LaneSound setup answers laneId Lacking laneConfig messageMetadata
      (setup.spawnLane laneConfig messageMetadata : DetectedLane Bits) where
  source := UnstableContractEventStateMachineWorker.satisfies_spawn
    ⟨rfl, SourceBlessState.new_acceptedFrom _⟩
  dest := UnstableContractEventStateMachineWorker.satisfies_spawn
    ⟨rfl, DestOffRampState.explainedBy_default _⟩
  anomalies := by
    intro anomaly member
    simp [CurseSetup.spawnLane, OffRampAnomalyDetectorState.default] at member

theorem LaneSound.iterateSource
    (sound : LaneSound setup answers laneId Lacking laneConfig messageMetadata
      lane)
    {iteration : WorkerIteration}
    (serves : iteration.Serves (answers.SourceLog laneId)) (fuel : Nat) :
    LaneSound setup answers laneId Lacking laneConfig messageMetadata
      { lane with
        sourceBlessWorker := CurseNode.iterateSource setup.keccak
          lane.sourceBlessWorker fuel iteration } :=
  { sound with
    source :=
      letI := VersionedCcipSendRequestFilter.decoding setup.keccak
      letI := SourceBlessState.hashing setup.keccak
      sound.source.iterate (SourceBlessState.acceptedFrom_kept _) serves
        fuel }

theorem explainedBy_kept [LawfulBitSet Bits] (setup : CurseSetup)
    (answers : ChainAnswers) (laneId : LaneId) :
    KeptByEvents (executionFilter setup.keccak) (answers.DestLog laneId)
      fun state : DestOffRampState Bits =>
        state.ExplainedBy (Executed setup answers laneId) := by
  intro state log ev explained served decoded
  have executed : Executed setup answers laneId ev := ⟨log, served, decoded⟩
  simp only [State.updateWithEvent]
  split
  · rename_i updated
    exact explained.updateWithEvent executed updated
  · exact explained.recordMessageId executed

theorem LaneSound.iterateDest [LawfulBitSet Bits]
    (sound : LaneSound setup answers laneId Lacking laneConfig messageMetadata
      lane)
    {iteration : WorkerIteration}
    (serves : iteration.Serves (answers.DestLog laneId)) (fuel : Nat) :
    LaneSound setup answers laneId Lacking laneConfig messageMetadata
      { lane with
        destOfframpWorker := CurseNode.iterateDest lane.destOfframpWorker fuel
          iteration } :=
  { sound with
    dest := sound.dest.iterate (explainedBy_kept setup answers laneId) serves
      fuel }

/-- The hashes of the stable source state are those of messages. -/
theorem LaneSound.sent
    (sound : LaneSound setup answers laneId Lacking laneConfig messageMetadata
      lane)
    (isLane : setup.config.sharedConfigByEnabledLane.lookup laneId =
      some laneConfig)
    (isMetadata : laneConfig.messageMetadata = some messageMetadata)
    {seqNr : UInt64} {messageId : MessageId}
    (found : lane.sourceBlessWorker.stableCesm.state.messageHash seqNr =
      some messageId) : Sent setup answers laneId seqNr messageId := by
  obtain ⟨events, requested, accepted⟩ := sound.source.stable.holds
  obtain ⟨sameMetadata, holds⟩ := SourceBlessState.applyAll_holds accepted
  obtain ⟨message, member, sameNumber, sameId⟩ := holds.messageHash found
  have hashed := holds.hashed message member
  rw [sameMetadata, sameId] at hashed
  obtain ⟨ev, isEvent, rfl⟩ := List.mem_map.mp member
  exact ⟨laneConfig, messageMetadata, ev, isLane, isMetadata,
    requested ev isEvent, sameNumber, sameId, hashed⟩

theorem LaneSound.detect
    (sound : LaneSound setup answers laneId Lacking laneConfig messageMetadata
      lane)
    (isLane : setup.config.sharedConfigByEnabledLane.lookup laneId =
      some laneConfig)
    (isMetadata : laneConfig.messageMetadata = some messageMetadata)
    (maxFreshBlockAge : TimeUnit) (unstableNow stableNow : Nat)
    (grows : ∀ seqNr, Lacking seqNr → Lacked seqNr)
    (lacked : ∀ seqNr,
      (lane.sourceBlessWorker.view maxFreshBlockAge unstableNow
        stableNow).Lacks seqNr → Lacked seqNr) :
    LaneSound setup answers laneId Lacked laneConfig messageMetadata
      { lane with
        offrampAnomalyDetector := lane.offrampAnomalyDetector.pass
          (lane.sourceBlessWorker.view maxFreshBlockAge unstableNow stableNow)
          lane.destOfframpWorker.unstableCesm.state
          lane.destOfframpWorker.stableCesm.state } :=
  { sound with
    anomalies := OffRampAnomalyDetectorState.pass_causes
      (fun anomaly member => (sound.anomalies anomaly member).mono grows)
      (fun _ _ found => sound.sent isLane isMetadata found) lacked
      sound.dest.unstable.holds }

theorem LaneSound.reap
    (sound : LaneSound setup answers laneId Lacking laneConfig messageMetadata
      lane) :
    LaneSound setup answers laneId Lacking laneConfig messageMetadata
      { lane with
        destOfframpWorker :=
          { lane.destOfframpWorker with
            stableCesm :=
              { lane.destOfframpWorker.stableCesm with
                state := lane.destOfframpWorker.stableCesm.state.reapMessageIds
                  lane.taken } } } :=
  { sound with
    dest := ⟨⟨sound.dest.stable.sameFilter,
      sound.dest.stable.holds.reapMessageIds lane.taken⟩,
        sound.dest.unstable⟩ }

end Lane

/-! ### The node -/

/-- The chains' statuses and what was logged of them. -/
structure ChainsSound (answers : ChainAnswers) (node : CurseNode Bits) :
    Prop where
  tips : ∀ chain tail, node.latestChainStatus chain = some (.good tail) →
    tail.stableTip ∈ node.stableTips chain
  violated : ∀ chain,
    node.latestChainStatus chain = some .finalityViolated →
      node.Violated answers chain

/-- The invariant of the lanes of the configuration. -/
def LanesSound [BitSet Bits] (setup : CurseSetup) (answers : ChainAnswers)
    (node : CurseNode Bits) : Prop :=
  ∀ laneId laneConfig,
    setup.config.sharedConfigByEnabledLane.lookup laneId = some laneConfig →
      ∃ messageMetadata, laneConfig.messageMetadata = some messageMetadata ∧
        LaneSound setup answers laneId (node.LackedBySource laneId) laneConfig
          messageMetadata (node.lanes laneId)

/-- The beacon and the copy that is being made of it. -/
structure BeaconSound (setup : CurseSetup) (answers : ChainAnswers)
    (node : CurseNode Bits) : Prop where
  lanes : node.curseBeacon.offrampAnomalyDetectors =
    setup.config.enabledLanes
  globalCurseChains :
    node.curseBeacon.finalityViolationGlobalCurseChains =
      globalCurseChains setup.config
  published : ∀ anomaly ∈ node.curseBeacon.cursableAnomalies,
    node.Cause setup answers anomaly
  copied : ∀ update, node.updating = some update →
    update.lanes ⊆ setup.config.enabledLanes ∧
      ∀ anomaly ∈ update.localCursableAnomalies,
        node.Cause setup answers anomaly

/-- The invariant of the node. -/
structure Sound [BitSet Bits] (setup : CurseSetup) (answers : ChainAnswers)
    (node : CurseNode Bits) : Prop where
  chains : node.ChainsSound answers
  lanes : node.LanesSound setup answers
  beacon : node.BeaconSound setup answers

/-- A chain status worker publishes a status it was polled for. -/
theorem ChainsSound.publishChainStatus (sound : node.ChainsSound answers)
    {chain : ChainName} {updater : ChainStatusUpdater} {rpc : BlockRpc}
    {isDone : Nat → Bool} {fuel : Nat} {chainStatus : ChainStatus}
    (records : rpc.Records (answers.Fetched chain)
      (answers.Finalized chain))
    (polled : updater.poll rpc isDone fuel (node.latestChainStatus chain) =
      .ok chainStatus)
    (grows : node.Grows (node.publishChainStatus chain chainStatus)) :
    (node.publishChainStatus chain chainStatus).ChainsSound answers where
  tips := by
    intro other tail isGood
    simp only [CurseNode.publishChainStatus] at isGood ⊢
    by_cases same : other = chain
    · subst same
      rw [Function.update_self, Option.some.injEq] at isGood
      subst isGood
      simp
    · rw [Function.update_of_ne same] at isGood
      have known := sound.tips other tail isGood
      cases chainStatus with
      | finalityViolated => exact known
      | good newTail =>
          simp only
          rw [Function.update_of_ne same]
          exact known
  violated := by
    intro other isViolated
    by_cases same : other = chain
    · subst same
      refine ⟨isViolated, ?_⟩
      simp only [CurseNode.publishChainStatus, Function.update_self,
        Option.some.injEq] at isViolated
      subst isViolated
      cases latest : node.latestChainStatus other with
      | none =>
          rw [latest] at polled
          exact absurd rfl (initial_ne_finalityViolated polled)
      | some known =>
          rw [latest] at polled
          cases known with
          | finalityViolated =>
              exact ((sound.violated other latest).mono grows).2
          | good tail =>
              apply (ChainStatusUpdater.conflict_of_violated records
                polled).mono
              intro block settled
              rcases settled with isTip | finalized
              · subst isTip
                exact .inl (sound.tips other tail latest)
              · exact .inr finalized
    · simp only [CurseNode.publishChainStatus,
        Function.update_of_ne same] at isViolated
      exact (sound.violated other isViolated).mono grows

theorem ChainsSound.mono (sound : node.ChainsSound answers)
    (grows : node.Grows later)
    (same : later.latestChainStatus = node.latestChainStatus) :
    later.ChainsSound answers where
  tips := by
    intro chain tail isGood
    rw [same] at isGood
    exact grows.stableTips chain (sound.tips chain tail isGood)
  violated := by
    intro chain isViolated
    rw [same] at isViolated
    exact (sound.violated chain isViolated).mono grows

theorem LanesSound.of_lane [BitSet Bits] (sound : node.LanesSound setup answers)
    {laneId : LaneId} {lane : DetectedLane Bits}
    (isLater : later.lanes = Function.update node.lanes laneId lane)
    (samePasses : ∀ other, other ≠ laneId →
      later.passes other = node.passes other)
    (kept : ∀ laneConfig messageMetadata,
      setup.config.sharedConfigByEnabledLane.lookup laneId =
        some laneConfig →
      laneConfig.messageMetadata = some messageMetadata →
      LaneSound setup answers laneId (node.LackedBySource laneId) laneConfig
        messageMetadata (node.lanes laneId) →
      LaneSound setup answers laneId (later.LackedBySource laneId) laneConfig
        messageMetadata lane) :
    later.LanesSound setup answers := by
  intro other laneConfig isLane
  obtain ⟨messageMetadata, isMetadata, laneSound⟩ :=
    sound other laneConfig isLane
  refine ⟨messageMetadata, isMetadata, ?_⟩
  rw [isLater]
  by_cases same : other = laneId
  · subst same
    rw [Function.update_self]
    exact kept laneConfig messageMetadata isLane isMetadata laneSound
  · have samePassed : later.LackedBySource other =
        node.LackedBySource other := by
      funext seqNr
      simp only [LackedBySource, samePasses other same]
    rw [Function.update_of_ne same, samePassed]
    exact laneSound

theorem LanesSound.detect [BitSet Bits] (sound : node.LanesSound setup answers)
    (laneId : LaneId) (maxFreshBlockAge : TimeUnit)
    (unstableNow stableNow : Nat) :
    (node.detect laneId
      ((node.lanes laneId).sourceBlessWorker.view maxFreshBlockAge unstableNow
        stableNow)).LanesSound setup answers := by
  apply sound.of_lane rfl
  · intro other different
    exact Function.update_of_ne different _ _
  · intro laneConfig messageMetadata isLane isMetadata laneSound
    apply laneSound.detect isLane isMetadata
    · intro seqNr lacked
      exact lacked.mono grows_detect
    · intro seqNr lacks
      refine ⟨_, ?_, lacks⟩
      simp [CurseNode.detect]

section Beacon

variable {view : BeaconView} {update : BeaconUpdate}

theorem BeaconSound.mono (sound : node.BeaconSound setup answers)
    (grows : node.Grows later)
    (sameBeacon : later.curseBeacon = node.curseBeacon)
    (sameUpdating : later.updating = node.updating) :
    later.BeaconSound setup answers where
  lanes := by
    rw [sameBeacon]
    exact sound.lanes
  globalCurseChains := by
    rw [sameBeacon]
    exact sound.globalCurseChains
  published := by
    rw [sameBeacon]
    exact fun anomaly member => (sound.published anomaly member).mono grows
  copied := by
    rw [sameUpdating]
    intro update isUpdate
    obtain ⟨lanes, causes⟩ := sound.copied update isUpdate
    exact ⟨lanes, fun anomaly member => (causes anomaly member).mono grows⟩

theorem BeaconSound.beginUpdate (sound : node.BeaconSound setup answers) :
    node.beginUpdate.BeaconSound setup answers :=
  { sound with
    copied := by
      intro update isUpdate
      cases isUpdate
      refine ⟨?_, sound.published⟩
      rw [sound.lanes]
      exact List.Subset.refl _ }

/-- What the update notes of a chain that it finds violated. -/
theorem BeaconSound.noteChain (sound : node.BeaconSound setup answers)
    (chains : node.ChainsSound answers) (views : node.Views view)
    {chain : ChainName} {updating : BeaconUpdate}
    (reading : node.updating = some updating)
    (sameLanes : updating.lanes = update.lanes)
    (sameCopy : updating.localCursableAnomalies =
      update.localCursableAnomalies) :
    (node.noteChain view chain update).BeaconSound setup answers :=
  { sound with
    copied := by
      intro noted isNoted
      obtain ⟨lanes, causes⟩ := sound.copied updating reading
      cases isNoted
      rw [sameLanes] at lanes
      rw [sameCopy] at causes
      refine ⟨lanes, ?_⟩
      intro anomaly member
      rcases (CurseBeacon.mem_noteChainStatus _ _ _ _ _).mp member with
        old | ⟨violated, isGlobal | isLocal⟩
      · exact causes anomaly old
      · rw [views.latestChainStatus] at violated
        rw [sound.globalCurseChains] at isGlobal
        rw [isGlobal.1]
        exact ⟨isGlobal.2, chains.violated chain violated⟩
      · rw [views.latestChainStatus] at violated
        rw [sound.globalCurseChains] at isLocal
        rw [isLocal.1]
        exact ⟨isLocal.2, chains.violated chain violated⟩ }

theorem BeaconSound.noteLane [BitSet Bits]
    (sound : node.BeaconSound setup answers)
    (lanes : node.LanesSound setup answers) (views : node.Views view)
    {laneId : LaneId}
    (reading : node.updating =
      some { update with lanes := laneId :: update.lanes }) :
    (node.noteLane view laneId update).BeaconSound setup answers :=
  { sound with
    copied := by
      intro noted isNoted
      obtain ⟨subset, causes⟩ := sound.copied _ reading
      cases isNoted
      obtain ⟨isEnabled, rest⟩ := List.cons_subset.mp subset
      refine ⟨rest, ?_⟩
      intro anomaly member
      rcases (CurseBeacon.mem_noteOffRampAnomalies _ _ _ _).mp member with
        old | ⟨found, isFound, rfl⟩
      · exact causes anomaly old
      · obtain ⟨laneConfig, isLane⟩ :=
          EntryMap.mem_iff.mp (AList.mem_keys.mpr isEnabled)
        obtain ⟨messageMetadata, _, laneSound⟩ := lanes laneId laneConfig isLane
        exact ⟨isEnabled,
          laneSound.anomalies found ((views.anomalies laneId found).mp isFound)⟩
  }

theorem BeaconSound.publishUpdate (sound : node.BeaconSound setup answers)
    {anomalies : CursableAnomaliesWithCurseIds}
    (read : node.updating = some ⟨[], [], anomalies⟩) :
    (node.publishUpdate anomalies).BeaconSound setup answers where
  lanes := sound.lanes
  globalCurseChains := sound.globalCurseChains
  published := (sound.copied _ read).2
  copied := by
    intro update isUpdate
    cases isUpdate

end Beacon

theorem manualCurse_of_mem_startBeacon {config : OffchainConfig}
    {manualCurse : Option CurseId} {draw : CursableAnomaly → CurseId}
    {anomaly : CursableAnomaly}
    (member : anomaly ∈
      (startBeacon config manualCurse draw).cursableAnomalies) :
    ∃ curseId, manualCurse = some curseId ∧ anomaly = .manualCurse curseId := by
  cases manualCurse with
  | none => exact absurd member (AList.notMem_empty anomaly)
  | some curseId =>
      rcases (CursableAnomaliesWithCurseIds.mem_note _ _ _ _).mp member with
        old | new
      · exact absurd old (AList.notMem_empty anomaly)
      · exact ⟨curseId, rfl, new⟩

section Run

variable [BitSet Bits] [LawfulBitSet Bits]

theorem Started.sound (started : node.Started setup) :
    node.Sound setup answers where
  chains := by
    constructor
    · intro chain tail isGood
      rw [started.chains] at isGood
      cases isGood
    · intro chain isViolated
      rw [started.chains] at isViolated
      cases isViolated
  lanes := by
    intro laneId laneConfig isLane
    obtain ⟨messageMetadata, isMetadata, spawned⟩ :=
      started.lanes laneId laneConfig isLane
    refine ⟨messageMetadata, isMetadata, ?_⟩
    rw [spawned]
    exact laneSound_spawn
  beacon := by
    obtain ⟨draw, isBeacon⟩ := started.beacon
    constructor
    · rw [isBeacon]
      rfl
    · rw [isBeacon]
      rfl
    · rw [isBeacon]
      intro anomaly member
      obtain ⟨curseId, given, rfl⟩ := manualCurse_of_mem_startBeacon member
      exact given
    · rw [started.idle]
      intro update isUpdate
      cases isUpdate

theorem Step.sound (step : Step setup answers node later)
    (sound : node.Sound setup answers) : later.Sound setup answers := by
  have grows := step.grows
  cases step with
  | pollChain isChain records polled =>
      exact
        { chains := sound.chains.publishChainStatus records polled grows
          lanes := sound.lanes
          beacon := sound.beacon.mono grows rfl rfl }
  | source laneId fuel follows serves =>
      exact
        { chains := sound.chains.mono grows rfl
          lanes := sound.lanes.of_lane rfl (fun _ _ => rfl)
            fun _ _ _ _ laneSound =>
              laneSound.iterateSource serves fuel
          beacon := sound.beacon.mono grows rfl rfl }
  | dest laneId fuel follows serves =>
      exact
        { chains := sound.chains.mono grows rfl
          lanes := sound.lanes.of_lane rfl (fun _ _ => rfl)
            fun _ _ _ _ laneSound =>
              laneSound.iterateDest serves fuel
          beacon := sound.beacon.mono grows rfl rfl }
  | detect laneId maxFreshBlockAge unstableNow stableNow =>
      exact
        { chains := sound.chains.mono grows rfl
          lanes := sound.lanes.detect laneId maxFreshBlockAge unstableNow
            stableNow
          beacon := sound.beacon.mono grows rfl rfl }
  | takeReapable laneId =>
      exact
        { chains := sound.chains.mono grows rfl
          lanes := sound.lanes.of_lane rfl (fun _ _ => rfl)
            fun _ _ _ _ laneSound =>
              { laneSound with }
          beacon := sound.beacon.mono grows rfl rfl }
  | reap laneId =>
      exact
        { chains := sound.chains.mono grows rfl
          lanes := sound.lanes.of_lane rfl (fun _ _ => rfl)
            fun _ _ _ _ laneSound =>
              laneSound.reap
          beacon := sound.beacon.mono grows rfl rfl }
  | beginUpdate idle =>
      exact
        { chains := sound.chains.mono grows rfl
          lanes := sound.lanes
          beacon := sound.beacon.beginUpdate }
  | noteChain views reading =>
      exact
        { chains := sound.chains.mono grows rfl
          lanes := sound.lanes
          beacon := sound.beacon.noteChain sound.chains views reading rfl rfl }
  | noteLane views chainsRead reading =>
      exact
        { chains := sound.chains.mono grows rfl
          lanes := sound.lanes
          beacon := sound.beacon.noteLane sound.lanes views reading }
  | publishUpdate read =>
      exact
        { chains := sound.chains.mono grows rfl
          lanes := sound.lanes
          beacon := sound.beacon.publishUpdate read }

theorem run_sound (run : ReflTransGen (Step setup answers) node later)
    (sound : node.Sound setup answers) : later.Sound setup answers := by
  induction run with
  | refl => exact sound
  | tail _ step ih => exact step.sound ih

end Run

/-! ### The log is one of the run -/

section Log

variable [BitSet Bits] {start : CurseNode Bits}

/-- A state that the node was in on the way from its start. -/
def Passed (setup : CurseSetup) (answers : ChainAnswers)
    (start node middle : CurseNode Bits) : Prop :=
  ReflTransGen (Step setup answers) start middle ∧
    ReflTransGen (Step setup answers) middle node

/-- Every logged tip was published, and every logged view was read. -/
structure LogsRun (setup : CurseSetup) (answers : ChainAnswers)
    (start node : CurseNode Bits) : Prop where
  stableTips : ∀ chain, ∀ block ∈ node.stableTips chain,
    ∃ middle tail, Passed setup answers start node middle ∧
      middle.latestChainStatus chain = some (.good tail) ∧
        tail.stableTip = block
  passes : ∀ laneId, ∀ source ∈ node.passes laneId,
    ∃ middle maxFreshBlockAge unstableNow stableNow,
      Passed setup answers start node middle ∧
        source = (middle.lanes laneId).sourceBlessWorker.view
          maxFreshBlockAge unstableNow stableNow

theorem Step.stableTips (step : Step setup answers node later)
    {chain : ChainName} {block : Block}
    (logged : block ∈ later.stableTips chain) :
    block ∈ node.stableTips chain ∨
      ∃ tail, later.latestChainStatus chain = some (.good tail) ∧
        tail.stableTip = block := by
  cases step with
  | @pollChain published _ _ _ _ chainStatus _ _ _ =>
      simp only [publishChainStatus] at logged ⊢
      cases chainStatus with
      | finalityViolated => exact .inl logged
      | good tail =>
          by_cases same : chain = published
          · subst same
            simp only [Function.update_self, List.mem_append,
              List.mem_singleton] at logged ⊢
            exact logged.imp id fun isTip => ⟨tail, rfl, isTip.symm⟩
          · simp only [Function.update_of_ne same] at logged
            exact .inl logged
  | source _ _ _ _ => exact .inl logged
  | dest _ _ _ _ => exact .inl logged
  | detect _ _ _ _ => exact .inl logged
  | takeReapable _ => exact .inl logged
  | reap _ => exact .inl logged
  | beginUpdate _ => exact .inl logged
  | noteChain _ _ => exact .inl logged
  | noteLane _ _ _ => exact .inl logged
  | publishUpdate _ => exact .inl logged

theorem Step.passes (step : Step setup answers node later) {laneId : LaneId}
    {source : SourceView} (logged : source ∈ later.passes laneId) :
    source ∈ node.passes laneId ∨
      ∃ maxFreshBlockAge unstableNow stableNow,
        source = (node.lanes laneId).sourceBlessWorker.view maxFreshBlockAge
          unstableNow stableNow := by
  cases step with
  | pollChain _ _ _ => exact .inl logged
  | source _ _ _ _ => exact .inl logged
  | dest _ _ _ _ => exact .inl logged
  | detect passedLane _ _ _ =>
      simp only [CurseNode.detect] at logged
      by_cases same : laneId = passedLane
      · subst same
        rw [Function.update_self, List.mem_append,
          List.mem_singleton] at logged
        exact logged.imp id fun isNew => ⟨_, _, _, isNew⟩
      · rw [Function.update_of_ne same] at logged
        exact .inl logged
  | takeReapable _ => exact .inl logged
  | reap _ => exact .inl logged
  | beginUpdate _ => exact .inl logged
  | noteChain _ _ => exact .inl logged
  | noteLane _ _ _ => exact .inl logged
  | publishUpdate _ => exact .inl logged

theorem Passed.tail {middle : CurseNode Bits}
    (passed : Passed setup answers start node middle)
    (step : Step setup answers node later) :
    Passed setup answers start later middle :=
  ⟨passed.1, passed.2.tail step⟩

theorem run_logsRun (nothingLogged : start.NothingLogged)
    (run : ReflTransGen (Step setup answers) start node) :
    LogsRun setup answers start node := by
  induction run with
  | refl =>
      constructor
      · intro chain block logged
        rw [nothingLogged.stableTips] at logged
        cases logged
      · intro laneId source logged
        rw [nothingLogged.passes] at logged
        cases logged
  | @tail node later reached step ih =>
      constructor
      · intro chain block logged
        rcases step.stableTips logged with old | ⟨tail, isGood, isTip⟩
        · obtain ⟨middle, tail, passed, isTip⟩ := ih.stableTips chain block old
          exact ⟨middle, tail, passed.tail step, isTip⟩
        · exact ⟨later, tail, ⟨reached.tail step, .refl⟩, isGood, isTip⟩
      · intro laneId source logged
        rcases step.passes logged with old | ⟨age, unstable, stable, isView⟩
        · obtain ⟨middle, age, unstable, stable, passed, isView⟩ :=
            ih.passes laneId source old
          exact ⟨middle, age, unstable, stable, passed.tail step, isView⟩
        · exact ⟨node, age, unstable, stable, ⟨reached, .single step⟩, isView⟩

end Log

/-! ### A chain whose node contradicts itself -/

def sampleSetup : CurseSetup where
  keccak := lengthHash
  config := BlessNode.sampleConfig
  manualCurse := none

/-- A block and another one at its height. -/
def firstBlock : Block := BlessNode.sampleBlock
def otherBlock : Block := { firstBlock with hash := .replicate 32 2 }

def sampleAnswers : ChainAnswers where
  Fetched _ block := block = firstBlock ∨ block = otherBlock
  Finalized _ block := block = firstBlock ∨ block = otherBlock
  SourceLog _ _ := False
  DestLog _ _ := False

/-- A node that answers everything with one block. -/
def constantRpc (block : Block) : BlockRpc where
  getBlock _ := .ok block
  getBlocks identifiers := .ok (identifiers.map fun _ => .ok block)

theorem constantRpc_records {block : Block}
    (known : block = firstBlock ∨ block = otherBlock) (chain : ChainName) :
    (constantRpc block).Records (sampleAnswers.Fetched chain)
      (sampleAnswers.Finalized chain) where
  block := by
    intro _ other answered
    cases answered
    exact known
  blocks := by
    intro identifiers results other answered member
    cases answered
    obtain ⟨_, _, same⟩ := List.mem_map.mp member
    cases same
    exact known
  finalized := by
    intro other answered
    cases answered
    exact known
  finalizedFirst := by
    intro identifiers results other answered isFirst
    cases answered
    cases isFirst
    exact known

def sampleStart : CurseNode SmallBitSet where
  latestChainStatus _ := none
  lanes _ := sampleSetup.spawnLane BlessNode.sampleLane
    BlessNode.sampleMetadata
  curseBeacon := startBeacon sampleSetup.config none fun _ => .replicate 32 5
  updating := none
  stableTips _ := []
  passes _ := []
  updates := 0

theorem sampleStart_started : sampleStart.Started sampleSetup where
  chains _ := rfl
  lanes := by
    intro laneId laneConfig isLane
    have member : (⟨laneId, laneConfig⟩ : Sigma fun _ => SharedLaneConfig) ∈
        sampleSetup.config.sharedConfigByEnabledLane.entries :=
      AList.mem_lookup_iff.mp isLane
    have entries : sampleSetup.config.sharedConfigByEnabledLane.entries =
        [⟨BlessNode.sampleLane.laneId, BlessNode.sampleLane⟩] := rfl
    rw [entries] at member
    cases List.mem_singleton.mp member
    exact ⟨BlessNode.sampleMetadata, rfl, rfl⟩
  beacon := ⟨fun _ => .replicate 32 5, rfl⟩
  idle := rfl

theorem sampleStart_nothingLogged : sampleStart.NothingLogged :=
  ⟨fun _ => rfl, fun _ => rfl, rfl⟩

/-- The chain's status is known. -/
def synced : CurseNode SmallBitSet :=
  sampleStart.publishChainStatus .sepolia (.good (.single firstBlock))

/-- The chain has contradicted itself. -/
def contradicted : CurseNode SmallBitSet :=
  synced.publishChainStatus .sepolia .finalityViolated

/-- The monitor while the detectors have found nothing. -/
def quietView (node : CurseNode Bits) : BeaconView where
  latestChainStatus := node.latestChainStatus
  anomalies _ := []
  draw _ := .replicate 32 6

theorem quietView_views (quiet : ∀ laneId,
    (node.lanes laneId).offrampAnomalyDetector.anomalies = ∅) :
    node.Views (quietView node) where
  latestChainStatus := rfl
  anomalies := by
    intro laneId anomaly
    simp [quietView, quiet laneId]

/-- The copy of an update that is being made. -/
def copied (node : CurseNode Bits) (chains : List ChainName)
    (lanes : List LaneId) : BeaconUpdate where
  chains := chains
  lanes := lanes
  localCursableAnomalies :=
    (node.updating.map BeaconUpdate.localCursableAnomalies).getD ∅

/-- The monitor has copied the beacon's map. -/
def updateBegun : CurseNode SmallBitSet := contradicted.beginUpdate

/-- The update has read the first chain. -/
def sourceRead : CurseNode SmallBitSet :=
  updateBegun.noteChain (quietView updateBegun) .sepolia
    (updateBegun.copied [.optimismSepolia] [BlessNode.sampleLane.laneId])

/-- The update has read both chains. -/
def chainsRead : CurseNode SmallBitSet :=
  sourceRead.noteChain (quietView sourceRead) .optimismSepolia
    (sourceRead.copied [] [BlessNode.sampleLane.laneId])

/-- The update has read the lane too. -/
def allRead : CurseNode SmallBitSet :=
  chainsRead.noteLane (quietView chainsRead) BlessNode.sampleLane.laneId
    (chainsRead.copied [] [])

/-- The update is published. -/
def cursed : CurseNode SmallBitSet :=
  allRead.publishUpdate (allRead.copied [] []).localCursableAnomalies

theorem sampleStart_contradicted :
    ReflTransGen (Step sampleSetup sampleAnswers) sampleStart
      contradicted := by
  have isChain : sampleSetup.config.sharedConfigByEnabledChain.lookup
      .sepolia = some (OffchainConfig.sampleChain .sepolia) := rfl
  have initial : ChainStatusUpdater.finalityTag.poll (constantRpc firstBlock)
      (fun _ => false) 1 none = .ok (.good (.single firstBlock)) := rfl
  have violation : ChainStatusUpdater.finalityTag.poll (constantRpc otherBlock)
      (fun _ => false) 1 (some (.good (.single firstBlock))) =
        .ok .finalityViolated := rfl
  have first : Step sampleSetup sampleAnswers sampleStart synced :=
    .pollChain sampleStart isChain
      (constantRpc_records (.inl rfl) .sepolia) initial
  have second : Step sampleSetup sampleAnswers synced contradicted :=
    .pollChain synced isChain
      (constantRpc_records (.inr rfl) .sepolia) violation
  exact .tail (.single first) second

theorem contradicted_cursed :
    ReflTransGen (Step sampleSetup sampleAnswers) contradicted cursed := by
  have quiet : ∀ laneId,
      (contradicted.lanes laneId).offrampAnomalyDetector.anomalies = ∅ :=
    fun _ => rfl
  have first : Step sampleSetup sampleAnswers contradicted updateBegun :=
    .beginUpdate rfl
  have second : Step sampleSetup sampleAnswers updateBegun sourceRead :=
    .noteChain (quietView_views quiet) rfl
  have third : Step sampleSetup sampleAnswers sourceRead chainsRead :=
    .noteChain (quietView_views quiet) rfl
  have fourth : Step sampleSetup sampleAnswers chainsRead allRead :=
    .noteLane (quietView_views quiet) rfl rfl
  have fifth : Step sampleSetup sampleAnswers allRead cursed :=
    .publishUpdate rfl
  exact .tail (.tail (.tail (.tail (.single first) second) third) fourth) fifth

/-- Nothing is cursed without a cause: the operator asked for the curse, the
chain's node contradicted a block that was settled, or the logs of a lane show
the anomaly, or a synced source lacks the message. -/
theorem every_curse_has_a_cause [BitSet Bits] [LawfulBitSet Bits]
    {start : CurseNode Bits} (started : start.Started setup)
    (nothingLogged : start.NothingLogged)
    (run : ReflTransGen (Step setup answers) start node) :
    (∀ anomaly ∈ node.curseBeacon.cursableAnomalies,
        node.Cause setup answers anomaly) ∧
      LogsRun setup answers start node :=
  ⟨(run_sound run started.sound).beacon.published,
    run_logsRun nothingLogged run⟩

theorem every_curse_has_a_cause_contradicted :
    .finalityViolatedLocalCurse .sepolia ∈
        cursed.curseBeacon.cursableAnomalies ∧
      cursed.Violated sampleAnswers .sepolia := by
  have isCursed : .finalityViolatedLocalCurse .sepolia ∈
      cursed.curseBeacon.cursableAnomalies := by decide +kernel
  have causes := (every_curse_has_a_cause sampleStart_started
    sampleStart_nothingLogged
    (sampleStart_contradicted.trans contradicted_cursed)).1
  exact ⟨isCursed, (causes _ isCursed).2⟩

end CurseNode
end RiskManagement
