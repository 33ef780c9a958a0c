import RiskManagement.Afn.AfnContract
import RiskManagement.Afn.CommitStoreCommon
import RiskManagement.Afn.Evm2EvmOffRamp
import RiskManagement.Afn.Evm2EvmOnRampV10
import RiskManagement.Afn.Evm2EvmOnRampV12
import RiskManagement.Miniabi.CheckedAbiDecode

/-!
# The decoding of every event, with its panics

The topic check comes first; behind it, a log has a first topic.  What the
decoding of an event indexes is in range because of that.
-/

namespace RiskManagement

open Panics

/-! ### Decoded structures -/

instance : CheckedAbiDecode TaggedRoot :=
  .ofTuple (Address × Bytes32 × Unit) fun (commitStore, root, ()) =>
    { commitStore, root }

instance : CheckedAbiDecode Interval :=
  .ofTuple (UInt64 × UInt64 × Unit) fun (min, max, ()) => { min, max }

instance : CheckedAbiDecode TokenPriceUpdate :=
  .ofTuple (Address × U256 × Unit) fun (sourceToken, usdPerToken, ()) =>
    { sourceToken, usdPerToken }

instance : CheckedAbiDecode GasPriceUpdate :=
  .ofTuple (UInt64 × U256 × Unit) fun (destChainSelector, usdPerUnitGas, ()) =>
    { destChainSelector, usdPerUnitGas }

instance : CheckedAbiDecode PriceUpdatesV1_0 :=
  .ofTuple (RustVec TokenPriceUpdate × UInt64 × U256 × Unit)
    fun (tokenPriceUpdates, destChainSelector, usdPerUnitGas, ()) =>
      { tokenPriceUpdates, destChainSelector, usdPerUnitGas }

instance : CheckedAbiDecode PriceUpdatesV1_2 :=
  .ofTuple (RustVec TokenPriceUpdate × RustVec GasPriceUpdate × Unit)
    fun (tokenPriceUpdates, gasPriceUpdates, ()) =>
      { tokenPriceUpdates, gasPriceUpdates }

instance {PriceUpdates : Type} [CheckedAbiDecode PriceUpdates] :
    CheckedAbiDecode (CommitReport PriceUpdates) :=
  .ofTuple (PriceUpdates × Interval × Bytes32 × Unit)
    fun (priceUpdates, interval, merkleRoot, ()) =>
      { priceUpdates, interval, merkleRoot }

instance : CheckedAbiDecode ReportAcceptedEventV1_0 :=
  .ofTuple (CommitReport PriceUpdatesV1_0 × Unit) fun (report, ()) =>
    { report }

instance : CheckedAbiDecode ReportAcceptedEventV1_2 :=
  .ofTuple (CommitReport PriceUpdatesV1_2 × Unit) fun (report, ()) =>
    { report }

instance : CheckedAbiDecode EVMTokenAmount :=
  .ofTuple (Address × U256 × Unit) fun (token, amount, ()) =>
    { token, amount }

instance : CheckedAbiDecode Evm2EvmMessageV1_0 :=
  .ofTuple (UInt64 × UInt64 × U256 × Address × UInt64 × U256 × Bool ×
      Address × Bytes × RustVec EVMTokenAmount × Address × Bytes32 × Unit)
    fun (sourceChainSelector, sequenceNumber, feeTokenAmount, sender, nonce,
        gasLimit, strict, receiver, data, tokenAmounts, feeToken, messageId,
        ()) =>
      { sourceChainSelector, sequenceNumber, feeTokenAmount, sender, nonce,
        gasLimit, strict, receiver, data, tokenAmounts, feeToken, messageId }

instance : CheckedAbiDecode CcipSendRequestedEventV1_0 :=
  .ofTuple (Evm2EvmMessageV1_0 × Unit) fun (message, ()) => { message }

instance : CheckedAbiDecode Evm2EvmMessageV1_2 :=
  .ofTuple (UInt64 × Address × Address × UInt64 × U256 × Bool × UInt64 ×
      Address × U256 × Bytes × RustVec EVMTokenAmount × RustVec Bytes ×
      Bytes32 × Unit)
    fun (sourceChainSelector, sender, receiver, sequenceNumber, gasLimit,
        strict, nonce, feeToken, feeTokenAmount, data, tokenAmounts,
        sourceTokenData, messageId, ()) =>
      { sourceChainSelector, sender, receiver, sequenceNumber, gasLimit,
        strict, nonce, feeToken, feeTokenAmount, data, tokenAmounts,
        sourceTokenData, messageId }

instance : CheckedAbiDecode CcipSendRequestedEventV1_2 :=
  .ofTuple (Evm2EvmMessageV1_2 × Unit) fun (message, ()) => { message }

/-! ### Events -/

abbrev LogDecoding := Run DecodeLogError

/-- `?` on an ABI error inside the decoding of a log. -/
def liftAbiRun {α : Type} (decoding : CheckedDecoder.Decoding α) :
    LogDecoding α :=
  ExceptT.mk (decoding.run.map liftAbi)

/-- An event with its signature and the decoding behind the topic check.  Of a
log that has a topic and fits memory, the decoding does not panic. -/
class CheckedDecodeLog (Event : Type) where
  logSignature : String
  uncheckedDecodeLog : EVMLog → LogDecoding Event
  uncheckedDecodeLog_returns : ∀ {log : EVMLog}, log.topics ≠ [] →
    log.data.data.length < 2 ^ 63 → Returns (uncheckedDecodeLog log)

/-- `log_topic()`. -/
def logTopic (keccak : Keccak) (Event : Type) [CheckedDecodeLog Event] :
    Bytes32 :=
  keccak (CheckedDecodeLog.logSignature Event).toUTF8.data.toList

/-- `decode_log` with its panics. -/
def checkedDecodeLog (keccak : Keccak) (Event : Type)
    [CheckedDecodeLog Event] (log : EVMLog) : LogDecoding Event := do
  returns (checkEventTopic (CheckedDecodeLog.logSignature Event)
    (logTopic keccak Event) log)
  CheckedDecodeLog.uncheckedDecodeLog log

theorem liftAbiRun_returns {α : Type} {decoding : CheckedDecoder.Decoding α}
    (safe : Returns decoding) : Returns (liftAbiRun decoding) := by
  obtain ⟨result, isResult⟩ := safe
  subst isResult
  exact ⟨liftAbi result, rfl⟩

theorem decodeData_returns (α : Type) [CheckedAbiDecode α] {log : EVMLog}
    (fits : log.data.data.length < 2 ^ 63) :
    Returns (liftAbiRun (checkedAbiDecode α log.data.data)) :=
  liftAbiRun_returns (checkedAbiDecode_returns α fits)

theorem indexedAndData_returns {ι α Event : Type} [CheckedAbiDecode α]
    {indexed : LogDecoding ι} (safe : Returns indexed)
    (build : ι → α → Event) {log : EVMLog}
    (fits : log.data.data.length < 2 ^ 63) :
    Returns (do
      let topics ← indexed
      let decoded ← liftAbiRun (checkedAbiDecode α log.data.data)
      return build topics decoded) := by
  apply Returns.bind safe
  intro topics _
  apply Returns.bind (decodeData_returns α fits)
  intro decoded _
  exact ⟨_, rfl⟩

theorem decodeTopic_returns (α : Type) [CheckedAbiDecode α]
    (topic : Bytes32) :
    Returns (liftAbiRun (checkedAbiDecode α topic.data)) := by
  apply liftAbiRun_returns
  apply checkedAbiDecode_returns
  rw [topic.size_eq]
  decide

/-! ### The off-ramp -/

/-- `try_from(u8)` fails but does not panic. -/
def MessageExecutionState.ofByteRun (state : UInt8) :
    LogDecoding MessageExecutionState :=
  returns (MessageExecutionState.ofByte state)

/-- `log.topics[1..]` is in range because the topic check has passed. -/
instance : CheckedDecodeLog ExecutionStateChanged where
  logSignature := UncheckedDecodeLog.logSignature ExecutionStateChanged
  uncheckedDecodeLog log := do
    let topics ← orPanic (sliceFrom log.topics 1)
    match topics with
    | [sequenceNumber, messageId] => do
        let decoded ← liftAbiRun
          (checkedAbiDecode (AbiTuple (UInt8 × Bytes × Unit)) log.data.data)
        let sequenceNumber ←
          liftAbiRun (checkedAbiDecode UInt64 sequenceNumber.data)
        let state ← MessageExecutionState.ofByteRun decoded.fields.1
        return { sequenceNumber, messageId, state }
    | topics => throw (.unexpectedTopics topics)
  uncheckedDecodeLog_returns {log} hasTopic fits := by
    rw [orPanic_bind _ (sliceFrom_eq (List.length_pos_iff.mpr hasTopic))]
    split
    · rename_i sequenceNumber messageId _
      apply Returns.bind (decodeData_returns _ fits)
      intro decoded _
      apply Returns.bind (decodeTopic_returns UInt64 sequenceNumber)
      intro sequenceNumber _
      apply Returns.bind ⟨_, rfl⟩
      intro state _
      exact ⟨_, rfl⟩
    · exact ⟨_, rfl⟩

/-! ### The AFN contract -/

/-- `T::abi_decode(topics.get(index).ok_or_else(..)?)?`. -/
def decodeIndexed (α : Type) [CheckedAbiDecode α] (eventName : String)
    (field : String) (topics : List Bytes32) (index : Nat) : LogDecoding α :=
  match topics[index]? with
  | none => throw (.topicNeededToParse eventName index field)
  | some topic => liftAbiRun (checkedAbiDecode α topic.data)

theorem decodeIndexed_returns (α : Type) [CheckedAbiDecode α]
    (eventName field : String) (topics : List Bytes32) (index : Nat) :
    Returns (decodeIndexed α eventName field topics index) := by
  rw [decodeIndexed]
  split
  · exact ⟨_, rfl⟩
  · exact decodeTopic_returns α _

/-- `parse_indexed_config_version_voter_and_root_as_tuple`. -/
def parseIndexedConfigVersionVoterAndRootAsTuple (logSignature : String)
    (topics : List Bytes32) : LogDecoding (UInt32 × Address) := do
  let configVersion ←
    decodeIndexed UInt32 logSignature "config_version" topics 1
  let voter ← decodeIndexed Address logSignature "voter" topics 2
  return (configVersion, voter)

theorem parseIndexedConfigVersionVoterAndRootAsTuple_returns
    (logSignature : String) (topics : List Bytes32) :
    Returns (parseIndexedConfigVersionVoterAndRootAsTuple logSignature
      topics) := by
  rw [parseIndexedConfigVersionVoterAndRootAsTuple]
  apply Returns.bind (decodeIndexed_returns UInt32 _ _ _ _)
  intro configVersion _
  apply Returns.bind (decodeIndexed_returns Address _ _ _ _)
  intro voter _
  exact ⟨_, rfl⟩

theorem voterAndData_returns {α Event : Type} [CheckedAbiDecode α]
    (logSignature : String) (build : UInt32 → Address → α → Event)
    {log : EVMLog} (fits : log.data.data.length < 2 ^ 63) :
    Returns (do
      let (configVersion, voter) ←
        parseIndexedConfigVersionVoterAndRootAsTuple logSignature log.topics
      let decoded ← liftAbiRun (checkedAbiDecode α log.data.data)
      return build configVersion voter decoded) :=
  indexedAndData_returns
    (parseIndexedConfigVersionVoterAndRootAsTuple_returns logSignature _)
    (fun indexed decoded => build indexed.1 indexed.2 decoded) fits

def TaggedRootBlessedEvent.logSignature : String :=
  "TaggedRootBlessed(uint32,(address,bytes32),uint16)"

instance : CheckedDecodeLog TaggedRootBlessedEvent where
  logSignature := TaggedRootBlessedEvent.logSignature
  uncheckedDecodeLog log := do
    let configVersion ← decodeIndexed UInt32
      TaggedRootBlessedEvent.logSignature "config_version" log.topics 1
    let decoded ← liftAbiRun (checkedAbiDecode
      (AbiTuple (TaggedRoot × UInt16 × Unit)) log.data.data)
    return {
      configVersion
      taggedRoot := decoded.fields.1
      accumulatedWeight := decoded.fields.2.1 }
  uncheckedDecodeLog_returns _ fits :=
    indexedAndData_returns (decodeIndexed_returns UInt32 _ _ _ _) _ fits

def TaggedRootBlessVotesResetEvent.logSignature : String :=
  "TaggedRootBlessVotesReset(uint32,(address,bytes32),bool)"

instance : CheckedDecodeLog TaggedRootBlessVotesResetEvent where
  logSignature := TaggedRootBlessVotesResetEvent.logSignature
  uncheckedDecodeLog log := do
    let configVersion ← decodeIndexed UInt32
      TaggedRootBlessVotesResetEvent.logSignature
      "config_version" log.topics 1
    let decoded ← liftAbiRun (checkedAbiDecode
      (AbiTuple (TaggedRoot × Bool × Unit)) log.data.data)
    return {
      configVersion
      taggedRoot := decoded.fields.1
      wasBlessed := decoded.fields.2.1 }
  uncheckedDecodeLog_returns _ fits :=
    indexedAndData_returns (decodeIndexed_returns UInt32 _ _ _ _) _ fits

def VotedToBlessEvent.logSignature : String :=
  "VotedToBless(uint32,address,(address,bytes32),uint8)"

instance : CheckedDecodeLog VotedToBlessEvent where
  logSignature := VotedToBlessEvent.logSignature
  uncheckedDecodeLog log := do
    let (configVersion, voter) ← parseIndexedConfigVersionVoterAndRootAsTuple
      VotedToBlessEvent.logSignature log.topics
    let decoded ← liftAbiRun (checkedAbiDecode
      (AbiTuple (TaggedRoot × UInt8 × Unit)) log.data.data)
    return {
      configVersion
      voter
      taggedRoot := decoded.fields.1
      weight := decoded.fields.2.1 }
  uncheckedDecodeLog_returns _ fits :=
    voterAndData_returns _ (fun configVersion voter
      (decoded : AbiTuple (TaggedRoot × UInt8 × Unit)) =>
        VotedToBlessEvent.mk configVersion voter decoded.fields.1
          decoded.fields.2.1) fits

def AlreadyVotedToBlessEvent.logSignature : String :=
  "AlreadyVotedToBless(uint32,address,(address,bytes32))"

instance : CheckedDecodeLog AlreadyVotedToBlessEvent where
  logSignature := AlreadyVotedToBlessEvent.logSignature
  uncheckedDecodeLog log := do
    let (configVersion, voter) ← parseIndexedConfigVersionVoterAndRootAsTuple
      AlreadyVotedToBlessEvent.logSignature log.topics
    let taggedRoot ← liftAbiRun (checkedAbiDecode TaggedRoot log.data.data)
    return { configVersion, voter, taggedRoot }
  uncheckedDecodeLog_returns _ fits := voterAndData_returns _ _ fits

def AlreadyBlessedEvent.logSignature : String :=
  "AlreadyBlessed(uint32,address,(address,bytes32))"

instance : CheckedDecodeLog AlreadyBlessedEvent where
  logSignature := AlreadyBlessedEvent.logSignature
  uncheckedDecodeLog log := do
    let (configVersion, voter) ← parseIndexedConfigVersionVoterAndRootAsTuple
      AlreadyBlessedEvent.logSignature log.topics
    let taggedRoot ← liftAbiRun (checkedAbiDecode TaggedRoot log.data.data)
    return { configVersion, voter, taggedRoot }
  uncheckedDecodeLog_returns _ fits := voterAndData_returns _ _ fits

/-! ### The commit store and the on-ramp -/

/-- An event that is the data of its log. -/
@[reducible]
def CheckedDecodeLog.ofData (Event : Type) [CheckedAbiDecode Event]
    (logSignature : String) : CheckedDecodeLog Event where
  logSignature := logSignature
  uncheckedDecodeLog log :=
    liftAbiRun (checkedAbiDecode Event log.data.data)
  uncheckedDecodeLog_returns _ fits := decodeData_returns Event fits

instance : CheckedDecodeLog ReportAcceptedEventV1_0 :=
  .ofData _ ("ReportAccepted((((address,uint192)[],uint64,uint192)," ++
    "(uint64,uint64),bytes32))")

instance : CheckedDecodeLog ReportAcceptedEventV1_2 :=
  .ofData _ ("ReportAccepted((((address,uint224)[],(uint64,uint224)[])," ++
    "(uint64,uint64),bytes32))")

instance : CheckedDecodeLog CcipSendRequestedEventV1_0 :=
  .ofData _ ("CCIPSendRequested((uint64,uint64,uint256,address,uint64," ++
    "uint256,bool,address,bytes,(address,uint256)[],address,bytes32))")

instance : CheckedDecodeLog CcipSendRequestedEventV1_2 :=
  .ofData _ ("CCIPSendRequested((uint64,address,address,uint64,uint256," ++
    "bool,uint64,address,uint256,bytes,(address,uint256)[],bytes[]," ++
    "bytes32))")

end RiskManagement
