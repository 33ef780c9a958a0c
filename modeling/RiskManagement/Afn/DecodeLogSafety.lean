import RiskManagement.Afn.EventDecoding

/-!
# The decoding of hostile logs
-/

namespace RiskManagement

open Panics

/-- Decoding a log as the event ends with a result or an error, and only a log
of the event's topic has a result. -/
def DecodesSafely (Event : Type) [CheckedDecodeLog Event] : Prop :=
  ∀ (keccak : Keccak) (log : EVMLog), log.data.data.length < 2 ^ 63 →
    ∃ result, checkedDecodeLog keccak Event log = returns result ∧
      ∀ event, result = .ok event →
        log.topics.head? = some (logTopic keccak Event)

theorem checkEventTopic_eq_ok_iff {eventName : String} {topic : Bytes32}
    {log : EVMLog} :
    checkEventTopic eventName topic log = .ok () ↔
      log.topics.head? = some topic := by
  rw [checkEventTopic]
  cases log.topics with
  | nil => simp
  | cons first rest =>
      simp only [List.head?_cons, Option.some.injEq]
      split
      · rename_i different
        simp [different]
      · rename_i same
        simpa using same

theorem decodesSafely (Event : Type) [CheckedDecodeLog Event] :
    DecodesSafely Event := by
  intro keccak log fits
  rw [checkedDecodeLog]
  cases checked : checkEventTopic (CheckedDecodeLog.logSignature Event)
      (logTopic keccak Event) log with
  | error failure =>
      refine ⟨.error failure, rfl, ?_⟩
      intro event decoded
      cases decoded
  | ok passed =>
      have isTopic := checkEventTopic_eq_ok_iff.mp checked
      have hasTopic : log.topics ≠ [] := by
        intro empty
        rw [empty] at isTopic
        cases isTopic
      obtain ⟨result, decoded⟩ :=
        @CheckedDecodeLog.uncheckedDecodeLog_returns Event _ log hasTopic fits
      exact ⟨result, decoded, fun _ _ => isTopic⟩

/-! ### The decoding without panics -/

/-- A log of an execution state change is decoded as without panics. -/
theorem checkedDecodeLog_executionStateChanged (keccak : Keccak)
    {log : EVMLog} (fits : log.data.data.length < 2 ^ 63) :
    checkedDecodeLog keccak ExecutionStateChanged log =
      returns (decodeLog ExecutionStateChanged
        (logTopic keccak ExecutionStateChanged) log) := by
  rw [checkedDecodeLog, decodeLog]
  apply bind_eq_returns rfl
  intro passed checked
  have isTopic := checkEventTopic_eq_ok_iff.mp checked
  have hasTopic : 1 ≤ log.topics.length := by
    cases topics : log.topics with
    | nil => simp [topics] at isTopic
    | cons first rest => exact Nat.succ_pos _
  simp only [CheckedDecodeLog.uncheckedDecodeLog,
    UncheckedDecodeLog.uncheckedDecodeLog]
  rw [orPanic_bind _ (sliceFrom_eq hasTopic), List.drop_one]
  rcases log.topics.tail with
    _ | ⟨sequenceNumber, _ | ⟨messageId, _ | ⟨third, rest⟩⟩⟩
  · rfl
  · rfl
  · have topicFits : sequenceNumber.data.length < 2 ^ 63 := by
      rw [sequenceNumber.size_eq]
      decide
    simp only
    rw [checkedAbiDecode_pair decodesAlike_u8 decodesAlike_bytes fits,
      decodesAlike_u64.checkedAbiDecode_eq topicFits]
    cases abiDecode (UInt8 × Bytes) log.data.data with
    | error failure => rfl
    | ok pair =>
        cases abiDecode UInt64 sequenceNumber.data with
        | error failure => rfl
        | ok number =>
            change (do
              let state ← MessageExecutionState.ofByteRun pair.1
              return (⟨number, messageId, state⟩ :
                ExecutionStateChanged)) = returns (do
                  let state ← MessageExecutionState.ofByte pair.1
                  return (⟨number, messageId, state⟩ :
                    ExecutionStateChanged))
            apply bind_eq_returns rfl
            intro state _
            rfl
  · rfl

/-- Without the topic check, a log without topics would panic. -/
theorem uncheckedDecodeLog_executionStateChanged_noTopics {log : EVMLog}
    (noTopics : log.topics = []) :
    (CheckedDecodeLog.uncheckedDecodeLog log :
      LogDecoding ExecutionStateChanged) = none := by
  simp only [CheckedDecodeLog.uncheckedDecodeLog, noTopics]
  rfl

/-- Decoding never panics: not on any input of any type and not on any log of
any event.  A decoded array is no longer than the input has words, the loop
over its elements stops with the input, and a decoded log has the topic of its
event. -/
theorem decoding_is_safe :
    (∀ (type : AbiType) (input : List UInt8), input.length < 2 ^ 63 →
        ∃ result, CheckedDecoder.decode type input = returns result ∧
          ∀ value, result = .ok value →
            value.ArraysWithin (input.length / 32)) ∧
      (∀ (item : AbiType) (bytes : List UInt8), bytes.length < 2 ^ 63 →
        ∀ length : Nat, CheckedDecoder.elementTurns
            (fun bytes cursor =>
              CheckedDecoder.decodeHelper item bytes cursor false)
            bytes length 0 ≤ bytes.length / 32 + 1) ∧
      DecodesSafely ExecutionStateChanged ∧
      DecodesSafely TaggedRootBlessedEvent ∧
      DecodesSafely TaggedRootBlessVotesResetEvent ∧
      DecodesSafely VotedToBlessEvent ∧
      DecodesSafely AlreadyVotedToBlessEvent ∧
      DecodesSafely AlreadyBlessedEvent ∧
      DecodesSafely ReportAcceptedEventV1_0 ∧
      DecodesSafely ReportAcceptedEventV1_2 ∧
      DecodesSafely CcipSendRequestedEventV1_0 ∧
      DecodesSafely CcipSendRequestedEventV1_2 := by
  refine ⟨?_, ?_, decodesSafely _, decodesSafely _, decodesSafely _,
    decodesSafely _, decodesSafely _, decodesSafely _, decodesSafely _,
    decodesSafely _, decodesSafely _, decodesSafely _⟩
  · intro type input fits
    exact CheckedDecoder.decode_returns_arraysWithin type fits
  · intro item bytes fits length
    exact CheckedDecoder.elementTurns_le item fits length 0

/-- An array that claims `2 ^ 64 - 1` elements and has one. -/
def hostileArray : List UInt8 :=
  BigEndian.digits 32 32 ++ BigEndian.digits 32 (2 ^ 64 - 1) ++
    BigEndian.digits 32 7

def topiclessLog : EVMLog where
  logIndex := 0
  address := .replicate 20 0
  data := .empty
  topics := []
  blockHash := .replicate 32 0
  blockNumber := 0

theorem decoding_is_safe_hostileArray :
    (∃ result, CheckedDecoder.decode (.dynamicArray .u64) hostileArray =
        returns result) ∧
      CheckedDecoder.elementTurns
          (fun bytes cursor =>
            CheckedDecoder.decodeHelper .u64 bytes cursor false)
          (hostileArray.drop 64) (2 ^ 64 - 1) 0 ≤ 2 ∧
      ∃ result, checkedDecodeLog (fun _ => .replicate 32 0)
        ExecutionStateChanged topiclessLog = returns result := by
  obtain ⟨decodes, turns, changed, _⟩ := decoding_is_safe
  have arrayLength : hostileArray.length = 96 := by decide +kernel
  have tailLength : (hostileArray.drop 64).length = 32 := by
    rw [List.length_drop, arrayLength]
  refine ⟨?_, ?_, ?_⟩
  · obtain ⟨result, decoded, _⟩ := decodes (.dynamicArray .u64) hostileArray
      (by rw [arrayLength]; decide)
    exact ⟨result, decoded⟩
  · have few := turns .u64 (hostileArray.drop 64)
      (by rw [tailLength]; decide) (2 ^ 64 - 1)
    rw [tailLength] at few
    exact few
  · obtain ⟨result, decoded, _⟩ := changed (fun _ => .replicate 32 0)
      topiclessLog (by decide)
    exact ⟨result, decoded⟩

end RiskManagement
