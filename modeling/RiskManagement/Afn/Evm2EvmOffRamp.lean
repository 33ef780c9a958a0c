import RiskManagement.Afn.Common

/-!
# The off-ramp's `ExecutionStateChanged` event
-/

namespace RiskManagement

/-- The states of a message on the off-ramp, in the order of their bytes. -/
inductive MessageExecutionState where
  | untouched
  | inProgress
  | success
  | failure
deriving DecidableEq

abbrev MessageId := Bytes32

/-- An off-ramp has executed a message. -/
structure ExecutionStateChanged where
  sequenceNumber : UInt64
  messageId : MessageId
  state : MessageExecutionState
deriving DecidableEq

/-- `try_from(u8)`. -/
def MessageExecutionState.ofByte :
    UInt8 → Except DecodeLogError MessageExecutionState
  | 0 => .ok .untouched
  | 1 => .ok .inProgress
  | 2 => .ok .success
  | 3 => .ok .failure
  | state => .error (.unknownState state)

instance : UncheckedDecodeLog ExecutionStateChanged where
  logSignature := "ExecutionStateChanged(uint64,bytes32,uint8,bytes)"
  uncheckedDecodeLog log :=
    match log.topics.tail with
    | [sequenceNumber, messageId] => do
        let (state, _returnData) ←
          liftAbi (abiDecode (UInt8 × Bytes) log.data.data)
        return {
          sequenceNumber := ← liftAbi (abiDecode UInt64 sequenceNumber.data)
          messageId := messageId
          state := ← MessageExecutionState.ofByte state }
    | topics => .error (.unexpectedTopics topics)

end RiskManagement
