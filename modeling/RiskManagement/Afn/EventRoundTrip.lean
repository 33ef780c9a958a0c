import RiskManagement.Afn.DestOffRampState
import RiskManagement.Afn.EventFilters
import RiskManagement.Afn.MessageHashCommits
import RiskManagement.Miniabi.TypedRoundTrip

/-!
# The filters read the events that contracts emit

A contract emits an event as a log: its topic and its indexed fields are the
topics, the other fields are the data.  The filters of a lane read the event
back from such a log.
-/

namespace RiskManagement

open Panics

/-! ### Encoded structures -/

instance : AbiRoundTrip TaggedRoot :=
  .ofTuple (fun v => (v.commitStore, v.root, ())) (fun _ => rfl) rfl

instance : AbiRoundTrip Interval :=
  .ofTuple (fun v => (v.min, v.max, ())) (fun _ => rfl) rfl

instance : AbiRoundTrip TokenPriceUpdate :=
  .ofTuple (fun v => (v.sourceToken, v.usdPerToken, ())) (fun _ => rfl) rfl

instance : AbiRoundTrip GasPriceUpdate :=
  .ofTuple (fun v => (v.destChainSelector, v.usdPerUnitGas, ()))
    (fun _ => rfl) rfl

instance : AbiRoundTrip PriceUpdatesV1_0 :=
  .ofTuple
    (fun v => (v.tokenPriceUpdates, v.destChainSelector, v.usdPerUnitGas, ()))
    (fun _ => rfl) rfl

instance : AbiRoundTrip PriceUpdatesV1_2 :=
  .ofTuple (fun v => (v.tokenPriceUpdates, v.gasPriceUpdates, ()))
    (fun _ => rfl) rfl

instance {PriceUpdates : Type} [CheckedAbiDecode PriceUpdates]
    [AbiRoundTrip PriceUpdates] : AbiRoundTrip (CommitReport PriceUpdates) :=
  .ofTuple (fun v => (v.priceUpdates, v.interval, v.merkleRoot, ()))
    (fun _ => rfl) rfl

instance : AbiRoundTrip ReportAcceptedEventV1_0 :=
  .ofTuple (fun v => (v.report, ())) (fun _ => rfl) rfl

instance : AbiRoundTrip ReportAcceptedEventV1_2 :=
  .ofTuple (fun v => (v.report, ())) (fun _ => rfl) rfl

instance : AbiRoundTrip EVMTokenAmount :=
  .ofTuple (fun v => (v.token, v.amount, ())) (fun _ => rfl) rfl

instance : AbiRoundTrip Evm2EvmMessageV1_0 :=
  .ofTuple
    (fun v => (v.sourceChainSelector, v.sequenceNumber, v.feeTokenAmount,
      v.sender, v.nonce, v.gasLimit, v.strict, v.receiver, v.data,
      v.tokenAmounts, v.feeToken, v.messageId, ()))
    (fun _ => rfl) rfl

instance : AbiRoundTrip CcipSendRequestedEventV1_0 :=
  .ofTuple (fun v => (v.message, ())) (fun _ => rfl) rfl

instance : AbiRoundTrip Evm2EvmMessageV1_2 :=
  .ofTuple
    (fun v => (v.sourceChainSelector, v.sender, v.receiver, v.sequenceNumber,
      v.gasLimit, v.strict, v.nonce, v.feeToken, v.feeTokenAmount, v.data,
      v.tokenAmounts, v.sourceTokenData, v.messageId, ()))
    (fun _ => rfl) rfl

instance : AbiRoundTrip CcipSendRequestedEventV1_2 :=
  .ofTuple (fun v => (v.message, ())) (fun _ => rfl) rfl

/-- The discriminant of a state. -/
def MessageExecutionState.toByte : MessageExecutionState → UInt8
  | .untouched => 0
  | .inProgress => 1
  | .success => 2
  | .failure => 3

theorem MessageExecutionState.ofByteRun_toByte
    (state : MessageExecutionState) :
    ofByteRun state.toByte = returns (.ok state) := by
  cases state with
  | untouched => rfl
  | inProgress => rfl
  | success => rfl
  | failure => rfl

/-! ### Emitted logs -/

/-- The bytes encode the value, and fit memory. -/
def Encodes {α : Type} [CheckedAbiDecode α] [AbiRoundTrip α] (value : α)
    (bytes : List UInt8) : Prop :=
  bytes = abiEncoding value ∧ bytes.length < 2 ^ 63

theorem Encodes.decoded {α : Type} [CheckedAbiDecode α] [AbiRoundTrip α]
    {value : α} {bytes : List UInt8} (encodes : Encodes value bytes) :
    liftAbiRun (checkedAbiDecode α bytes) = returns (.ok value) := by
  obtain ⟨rfl, fits⟩ := encodes
  rw [checkedAbiDecode_abiEncoding value fits]
  rfl

theorem Encodes.decodeIndexed {α : Type} [CheckedAbiDecode α]
    [AbiRoundTrip α] {value : α} {topic : Bytes32} {topics : List Bytes32}
    {index : Nat} (encodes : Encodes value topic.data)
    (indexed : topics[index]? = some topic) (eventName field : String) :
    decodeIndexed α eventName field topics index = returns (.ok value) := by
  rw [RiskManagement.decodeIndexed, indexed]
  exact encodes.decoded

/-- How the contract lays out an event: the topics behind the first one, and
the data. -/
class EmitsLog (Event : Type) [CheckedDecodeLog Event] where
  LaysOut : Event → List Bytes32 → List UInt8 → Prop
  decodes : ∀ (event : Event) (log : EVMLog),
    log.topics ≠ [] → LaysOut event log.topics.tail log.data.data →
      CheckedDecodeLog.uncheckedDecodeLog log = returns (.ok event)

/-- A log of the event. -/
structure Emitted (keccak : Keccak) {Event : Type} [CheckedDecodeLog Event]
    [EmitsLog Event] (event : Event) (log : EVMLog) : Prop where
  isTopic : log.topics.head? = some (logTopic keccak Event)
  laidOut : EmitsLog.LaysOut event log.topics.tail log.data.data

theorem Emitted.decoded {keccak : Keccak} {Event : Type}
    [CheckedDecodeLog Event] [EmitsLog Event] {event : Event} {log : EVMLog}
    (emitted : Emitted keccak event log) :
    checkedDecodeLog keccak Event log = returns (.ok event) := by
  have hasTopic : log.topics ≠ [] := by
    intro empty
    have isTopic := emitted.isTopic
    rw [empty] at isTopic
    cases isTopic
  have checked : checkEventTopic (CheckedDecodeLog.logSignature Event)
      (logTopic keccak Event) log = .ok () :=
    checkEventTopic_eq_ok_iff.mpr emitted.isTopic
  rw [checkedDecodeLog, checked, ok_bind]
  exact EmitsLog.decodes event log hasTopic emitted.laidOut

/-- An event that is the data of its log. -/
@[reducible]
def EmitsLog.ofData (Event : Type) [CheckedAbiDecode Event]
    [AbiRoundTrip Event] (logSignature : String) :
    @EmitsLog Event (.ofData Event logSignature) :=
  let _ : CheckedDecodeLog Event := .ofData Event logSignature
  { LaysOut := fun event _ data => Encodes event data
    decodes := fun _ _ _ encodes => encodes.decoded }

instance : EmitsLog ReportAcceptedEventV1_0 := .ofData _ _
instance : EmitsLog ReportAcceptedEventV1_2 := .ofData _ _
instance : EmitsLog CcipSendRequestedEventV1_0 := .ofData _ _
instance : EmitsLog CcipSendRequestedEventV1_2 := .ofData _ _

theorem topics_eq_cons {log : EVMLog} {rest : List Bytes32}
    (hasTopic : log.topics ≠ []) (isTail : log.topics.tail = rest) :
    ∃ first, log.topics = first :: rest := by
  obtain ⟨first, others, isCons⟩ := List.exists_cons_of_ne_nil hasTopic
  rw [isCons, List.tail_cons] at isTail
  subst isTail
  exact ⟨first, isCons⟩

instance : EmitsLog ExecutionStateChanged where
  LaysOut event topics data := ∃ sequenceNumber : Bytes32, ∃ returnData : Bytes,
    topics = [sequenceNumber, event.messageId] ∧
      Encodes event.sequenceNumber sequenceNumber.data ∧
        Encodes (AbiTuple.mk (event.state.toByte, returnData, ())) data
  decodes event log hasTopic := by
    rintro ⟨sequenceNumber, returnData, isTail, number, encodes⟩
    obtain ⟨first, isTopics⟩ := topics_eq_cons hasTopic isTail
    simp only [CheckedDecodeLog.uncheckedDecodeLog, isTopics]
    rw [orPanic_bind _ (sliceFrom_eq (by simp)), List.drop_one,
      List.tail_cons]
    simp only
    rw [encodes.decoded, ok_bind, number.decoded, ok_bind,
      MessageExecutionState.ofByteRun_toByte]
    rfl

/-- One indexed field and data. -/
def LaysOutVersioned {α : Type} [CheckedAbiDecode α] [AbiRoundTrip α]
    (configVersion : UInt32) (fields : α) (topics : List Bytes32)
    (data : List UInt8) : Prop :=
  ∃ version : Bytes32, topics = [version] ∧
    Encodes configVersion version.data ∧ Encodes fields data

/-- Two indexed fields and data. -/
def LaysOutVoter {α : Type} [CheckedAbiDecode α] [AbiRoundTrip α]
    (configVersion : UInt32) (voter : Address) (fields : α)
    (topics : List Bytes32) (data : List UInt8) : Prop :=
  ∃ version voterTopic : Bytes32, topics = [version, voterTopic] ∧
    Encodes configVersion version.data ∧ Encodes voter voterTopic.data ∧
      Encodes fields data

section Layouts

variable {α Event : Type} [CheckedAbiDecode α] [AbiRoundTrip α]
  {configVersion : UInt32} {voter : Address} {fields : α} {log : EVMLog}

theorem LaysOutVersioned.decodes (logSignature : String)
    (hasTopic : log.topics ≠ [])
    (laysOut : LaysOutVersioned configVersion fields log.topics.tail
      log.data.data) (build : UInt32 → α → Event) :
    (do
      let configVersion ← decodeIndexed UInt32 logSignature "config_version"
        log.topics 1
      let decoded ← liftAbiRun (checkedAbiDecode α log.data.data)
      return build configVersion decoded) =
        (returns (.ok (build configVersion fields)) : LogDecoding Event) := by
  obtain ⟨version, isTail, versionEncodes, fieldsEncode⟩ := laysOut
  obtain ⟨first, isTopics⟩ := topics_eq_cons hasTopic isTail
  rw [versionEncodes.decodeIndexed (by rw [isTopics]; rfl), ok_bind,
    fieldsEncode.decoded, ok_bind]
  rfl

theorem LaysOutVoter.decodes (logSignature : String)
    (hasTopic : log.topics ≠ [])
    (laysOut : LaysOutVoter configVersion voter fields log.topics.tail
      log.data.data) (build : UInt32 → Address → α → Event) :
    (do
      let (configVersion, voter) ←
        parseIndexedConfigVersionVoterAndRootAsTuple logSignature log.topics
      let decoded ← liftAbiRun (checkedAbiDecode α log.data.data)
      return build configVersion voter decoded) =
        (returns (.ok (build configVersion voter fields)) :
          LogDecoding Event) := by
  obtain ⟨version, voterTopic, isTail, versionEncodes, voterEncodes,
    fieldsEncode⟩ := laysOut
  obtain ⟨first, isTopics⟩ := topics_eq_cons hasTopic isTail
  have parsed : parseIndexedConfigVersionVoterAndRootAsTuple logSignature
      log.topics = returns (.ok (configVersion, voter)) := by
    rw [parseIndexedConfigVersionVoterAndRootAsTuple,
      versionEncodes.decodeIndexed (by rw [isTopics]; rfl), ok_bind,
      voterEncodes.decodeIndexed (by rw [isTopics]; rfl), ok_bind]
    rfl
  rw [parsed, ok_bind]
  simp only
  rw [fieldsEncode.decoded, ok_bind]
  rfl

end Layouts

instance : EmitsLog TaggedRootBlessedEvent where
  LaysOut event := LaysOutVersioned event.configVersion
    (AbiTuple.mk (event.taggedRoot, event.accumulatedWeight, ()))
  decodes _ _ hasTopic laysOut :=
    laysOut.decodes _ hasTopic fun configVersion decoded =>
      TaggedRootBlessedEvent.mk configVersion decoded.fields.1
        decoded.fields.2.1

instance : EmitsLog TaggedRootBlessVotesResetEvent where
  LaysOut event := LaysOutVersioned event.configVersion
    (AbiTuple.mk (event.taggedRoot, event.wasBlessed, ()))
  decodes _ _ hasTopic laysOut :=
    laysOut.decodes _ hasTopic fun configVersion decoded =>
      TaggedRootBlessVotesResetEvent.mk configVersion decoded.fields.1
        decoded.fields.2.1

instance : EmitsLog VotedToBlessEvent where
  LaysOut event := LaysOutVoter event.configVersion event.voter
    (AbiTuple.mk (event.taggedRoot, event.weight, ()))
  decodes _ _ hasTopic laysOut :=
    laysOut.decodes _ hasTopic fun configVersion voter decoded =>
      VotedToBlessEvent.mk configVersion voter decoded.fields.1
        decoded.fields.2.1

instance : EmitsLog AlreadyVotedToBlessEvent where
  LaysOut event := LaysOutVoter event.configVersion event.voter
    event.taggedRoot
  decodes _ _ hasTopic laysOut :=
    laysOut.decodes _ hasTopic AlreadyVotedToBlessEvent.mk

instance : EmitsLog AlreadyBlessedEvent where
  LaysOut event := LaysOutVoter event.configVersion event.voter
    event.taggedRoot
  decodes _ _ hasTopic laysOut :=
    laysOut.decodes _ hasTopic AlreadyBlessedEvent.mk

/-! ### The filters -/

/-- An on-ramp emits its version's event. -/
def CcipSendRequestedEventUnion.Emitted (keccak : Keccak) (log : EVMLog) :
    CcipSendRequestedEventUnion → Prop
  | .evm2EvmV1_0 event => RiskManagement.Emitted keccak event log
  | .evm2EvmV1_2 event => RiskManagement.Emitted keccak event log

/-- Each event is emitted by the contract that it belongs to. -/
def DestEventUnion.Emitted (keccak : Keccak) (log : EVMLog) :
    DestEventUnion → Prop
  | .blessed event => RiskManagement.Emitted keccak event log
  | .blessVotesReset event => RiskManagement.Emitted keccak event log
  | .alreadyBlessed event => RiskManagement.Emitted keccak event log
  | .voted event => RiskManagement.Emitted keccak event log
  | .alreadyVoted event => RiskManagement.Emitted keccak event log
  | .committedV1_0 event => RiskManagement.Emitted keccak event log
  | .committedV1_2 event => RiskManagement.Emitted keccak event log

section Filters

variable {keccak : Keccak} {log : EVMLog} {laneType : LaneType}

theorem Emitted.decodeEvent {Event Union : Type} [CheckedDecodeLog Event]
    [EmitsLog Event] {event : Event} (emitted : Emitted keccak event log)
    (build : Event → Union) :
    (build <$> decodeEvent keccak Event log : FilterDecoding Union) =
      returns (.ok (build event)) := by
  rw [RiskManagement.decodeEvent, emitted.decoded]
  rfl

theorem VersionedCcipSendRequestFilter.decodeLog_emitted
    {event : CcipSendRequestedEventUnion}
    (ofLane : LaneEvent.OfLane laneType event)
    (emitted : event.Emitted keccak log) :
    (VersionedCcipSendRequestFilter.mk laneType).decodeLog keccak log =
      returns (.ok event) := by
  cases event with
  | evm2EvmV1_0 event =>
      have emitted : RiskManagement.Emitted keccak event log := emitted
      cases (ofLane : laneType = .evm2EvmV1_0)
      simp only [decodeLog, emitted.isTopic, and_self, if_true]
      exact emitted.decodeEvent _
  | evm2EvmV1_2 event =>
      have emitted : RiskManagement.Emitted keccak event log := emitted
      cases (ofLane : laneType = .evm2EvmV1_2)
      simp only [decodeLog, emitted.isTopic, reduceCtorEq, false_and, if_false,
        and_self, if_true]
      exact emitted.decodeEvent _

/-- The topic of an event is compared with those before it. -/
theorem VersionedDestEventFilter.decodeLog_emitted {event : DestEventUnion}
    (distinct : ((VersionedDestEventFilter.mk laneType).logTopics
      keccak).Nodup)
    (ofLane : LaneEvent.OfLane laneType event)
    (emitted : event.Emitted keccak log) :
    (VersionedDestEventFilter.mk laneType).decodeLog keccak log =
      returns (.ok event) := by
  have nonVersioned := List.nodup_reverse.mpr distinct.of_append_left
  have all := List.nodup_reverse.mpr distinct
  simp only [List.reverse_cons, List.reverse_nil, List.nil_append,
    List.cons_append, List.nodup_cons, List.mem_cons, not_or]
    at nonVersioned
  cases event with
  | blessed event =>
      have emitted : RiskManagement.Emitted keccak event log := emitted
      simp only [decodeLog, emitted.isTopic, if_true]
      exact emitted.decodeEvent _
  | blessVotesReset event =>
      have emitted : RiskManagement.Emitted keccak event log := emitted
      simp only [decodeLog, emitted.isTopic, nonVersioned, if_false, if_true]
      exact emitted.decodeEvent _
  | alreadyBlessed event =>
      have emitted : RiskManagement.Emitted keccak event log := emitted
      simp only [decodeLog, emitted.isTopic, nonVersioned, if_false, if_true]
      exact emitted.decodeEvent _
  | voted event =>
      have emitted : RiskManagement.Emitted keccak event log := emitted
      simp only [decodeLog, emitted.isTopic, nonVersioned, if_false, if_true]
      exact emitted.decodeEvent _
  | alreadyVoted event =>
      have emitted : RiskManagement.Emitted keccak event log := emitted
      simp only [decodeLog, emitted.isTopic, nonVersioned, if_false, if_true]
      exact emitted.decodeEvent _
  | committedV1_0 event =>
      have emitted : RiskManagement.Emitted keccak event log := emitted
      cases (ofLane : laneType = .evm2EvmV1_0)
      simp [logTopics] at all
      simp only [decodeLog, emitted.isTopic, all, if_false, and_self, if_true]
      exact emitted.decodeEvent _
  | committedV1_2 event =>
      have emitted : RiskManagement.Emitted keccak event log := emitted
      cases (ofLane : laneType = .evm2EvmV1_2)
      simp [logTopics] at all
      simp only [decodeLog, emitted.isTopic, all, if_false, and_self, if_true,
        reduceCtorEq, and_false]
      exact emitted.decodeEvent _

/-- The filter of a lane asks the node for the topics of the lane's events. -/
theorem VersionedCcipSendRequestFilter.asks
    {event : CcipSendRequestedEventUnion}
    (ofLane : LaneEvent.OfLane laneType event) :
    LaneEvent.logTopic keccak event ∈
      (VersionedCcipSendRequestFilter.mk laneType).logTopics keccak := by
  cases event with
  | evm2EvmV1_0 event =>
      cases (ofLane : laneType = .evm2EvmV1_0)
      exact List.mem_singleton.mpr rfl
  | evm2EvmV1_2 event =>
      cases (ofLane : laneType = .evm2EvmV1_2)
      exact List.mem_singleton.mpr rfl

theorem VersionedDestEventFilter.asks {event : DestEventUnion}
    (ofLane : LaneEvent.OfLane laneType event) :
    LaneEvent.logTopic keccak event ∈
      (VersionedDestEventFilter.mk laneType).logTopics keccak := by
  cases event with
  | committedV1_0 event =>
      cases (ofLane : laneType = .evm2EvmV1_0)
      simp [LaneEvent.logTopic, logTopics]
  | committedV1_2 event =>
      cases (ofLane : laneType = .evm2EvmV1_2)
      simp [LaneEvent.logTopic, logTopics]
  | _ => simp [LaneEvent.logTopic, logTopics]

theorem SimpleExecutionStateChangedFilter.checkedDecodeLog_emitted
    {event : ExecutionStateChanged}
    (emitted : RiskManagement.Emitted keccak event log) :
    (executionFilter keccak).checkedDecodeLog keccak log =
      returns (.ok event) := by
  rw [checkedDecodeLog, decodeEvent, emitted.decoded]
  rfl

theorem SimpleExecutionStateChangedFilter.decodeLog_emitted
    {event : ExecutionStateChanged}
    (emitted : RiskManagement.Emitted keccak event log) :
    ContractEventFilter.decodeLog (executionFilter keccak) log =
      .ok event := by
  obtain ⟨_, _, _, _, _, fits⟩ := emitted.laidOut
  have decoded := emitted.decoded
  rw [checkedDecodeLog_executionStateChanged keccak fits] at decoded
  exact Option.some.inj decoded

end Filters

/-- A lane's filters read every event of the lane from a log that a contract
emits for it, and ask for that log by its topic. -/
theorem emitted_events_are_read (keccak : Keccak) (laneType : LaneType)
    (log : EVMLog) :
    (∀ event : CcipSendRequestedEventUnion,
        LaneEvent.OfLane laneType event → event.Emitted keccak log →
          LaneEvent.logTopic keccak event ∈
              (VersionedCcipSendRequestFilter.mk laneType).logTopics keccak ∧
            (VersionedCcipSendRequestFilter.mk laneType).decodeLog keccak
              log = returns (.ok event)) ∧
      (((VersionedDestEventFilter.mk laneType).logTopics keccak).Nodup →
        ∀ event : DestEventUnion,
          LaneEvent.OfLane laneType event → event.Emitted keccak log →
            LaneEvent.logTopic keccak event ∈
                (VersionedDestEventFilter.mk laneType).logTopics keccak ∧
              (VersionedDestEventFilter.mk laneType).decodeLog keccak log =
                returns (.ok event)) ∧
      ∀ event : ExecutionStateChanged, Emitted keccak event log →
        logTopic keccak ExecutionStateChanged ∈
            (executionFilter keccak).logTopics ∧
          (executionFilter keccak).checkedDecodeLog keccak log =
            returns (.ok event) ∧
          ContractEventFilter.decodeLog (executionFilter keccak) log =
            .ok event := by
  refine ⟨?_, ?_, ?_⟩
  · intro event ofLane emitted
    exact ⟨VersionedCcipSendRequestFilter.asks ofLane,
      VersionedCcipSendRequestFilter.decodeLog_emitted ofLane emitted⟩
  · intro distinct event ofLane emitted
    exact ⟨VersionedDestEventFilter.asks ofLane,
      VersionedDestEventFilter.decodeLog_emitted distinct ofLane emitted⟩
  · intro event emitted
    exact ⟨List.mem_singleton.mpr rfl,
      SimpleExecutionStateChangedFilter.checkedDecodeLog_emitted emitted,
      SimpleExecutionStateChangedFilter.decodeLog_emitted emitted⟩

/-- A root that was blessed, and the log of it. -/
def sampleBlessed : TaggedRootBlessedEvent where
  configVersion := 1
  taggedRoot := ⟨.replicate 20 1, .replicate 32 2⟩
  accumulatedWeight := 3

def sampleBlessedLog : EVMLog where
  logIndex := 0
  address := .replicate 20 7
  data := ⟨⟨abiEncoding (AbiTuple.mk (sampleBlessed.taggedRoot,
    sampleBlessed.accumulatedWeight, ())), by decide +kernel⟩⟩
  topics := [logTopic lengthHash TaggedRootBlessedEvent,
    ⟨abiEncoding sampleBlessed.configVersion, by decide +kernel⟩]
  blockHash := .replicate 32 0
  blockNumber := 0

/-- A message that was executed, and the log of it. -/
def sampleExecution : ExecutionStateChanged where
  sequenceNumber := 4
  messageId := .replicate 32 5
  state := .success

def sampleExecutionLog : EVMLog where
  logIndex := 1
  address := .replicate 20 8
  data := ⟨⟨abiEncoding (AbiTuple.mk (sampleExecution.state.toByte,
    (⟨.empty⟩ : Bytes), ())), by decide +kernel⟩⟩
  topics := [logTopic lengthHash ExecutionStateChanged,
    ⟨abiEncoding sampleExecution.sequenceNumber, by decide +kernel⟩,
    sampleExecution.messageId]
  blockHash := .replicate 32 0
  blockNumber := 0

theorem emitted_events_are_read_sampleBlessed :
    (VersionedDestEventFilter.mk .evm2EvmV1_2).decodeLog lengthHash
        sampleBlessedLog = returns (.ok (.blessed sampleBlessed)) ∧
      (executionFilter lengthHash).checkedDecodeLog lengthHash
        sampleExecutionLog = returns (.ok sampleExecution) := by
  have distinct : ((VersionedDestEventFilter.mk .evm2EvmV1_2).logTopics
      lengthHash).Nodup := by decide +kernel
  have blessed : Emitted lengthHash sampleBlessed sampleBlessedLog :=
    { isTopic := rfl
      laidOut := ⟨_, rfl, ⟨rfl, by decide +kernel⟩, rfl, by decide +kernel⟩ }
  have executed : Emitted lengthHash sampleExecution sampleExecutionLog :=
    { isTopic := rfl
      laidOut := ⟨_, ⟨.empty⟩, rfl, ⟨rfl, by decide +kernel⟩, rfl,
        by decide +kernel⟩ }
  constructor
  · exact ((emitted_events_are_read lengthHash .evm2EvmV1_2
      sampleBlessedLog).2.1 distinct (.blessed sampleBlessed) trivial
        blessed).2
  · exact ((emitted_events_are_read lengthHash .evm2EvmV1_2
      sampleExecutionLog).2.2 sampleExecution executed).2.1

end RiskManagement
