import RiskManagement.Library.Loops
import RiskManagement.Afn.ContractEventStateMachine

/-!
# Fetching logs in ranges of adaptive size

A call asks for the logs of a range whose size is remembered from call to call.
It grows when a request succeeds quickly and shrinks when one fails or is slow.
A failure that a smaller range may cure is tried again.
-/

namespace RiskManagement

open Loops (Turn iterate)

namespace SmartGetLogs

/-- Ranges grow by a factor until one was too large. -/
inductive BlockRangeIncrease where
  | multiplicative
  | additive
deriving DecidableEq

/-- The size of the next range, with the way it grows. -/
structure BlockRange where
  increase : BlockRangeIncrease
  size : UInt64
deriving DecidableEq

/-- Wraps for the range of all numbers. -/
def rangeSize (fromBlock toBlock : UInt64) : UInt64 :=
  toBlock - fromBlock + 1

namespace BlockRange

/-- Halves the range, and lets it grow slowly from then on. -/
def onFailure (fromBlock toBlock : UInt64) : BlockRange where
  increase := .additive
  size := max (rangeSize fromBlock toBlock / 2) 1

/-- Only a range of the full size lets the size grow. -/
def onSuccess (self : BlockRange) (fromBlock toBlock : UInt64) : BlockRange :=
  if self.size ≤ rangeSize fromBlock toBlock then
    match self.increase with
    | .multiplicative =>
        { self with size := Word64.saturatingMul self.size 2 }
    | .additive => { self with size := Word64.saturatingAdd self.size 1 }
  else
    self

end BlockRange

end SmartGetLogs

/-- A filter and the size of the range it is asked with next. -/
structure SmartGetLogs where
  addresses : List Address
  firstTopics : List Bytes32
  blockRange : SmartGetLogs.BlockRange
deriving DecidableEq

/-- Five seconds in nanoseconds. -/
def softTimeout : Nat := 5 * 1000000000

/-- What the node is asked for. -/
structure GetLogsRequest where
  fromBlock : UInt64
  toBlock : UInt64
  addresses : List Address
  firstTopics : List Bytes32
deriving DecidableEq

/-- What the node answers, and what the timer shows afterwards. -/
structure GetLogsAnswer where
  rpcLogs : Except RpcError (List EVMLog)
  elapsed : Nat

/-- One request of a call with its answer, and the size it was made with. -/
structure GetLogsAttempt where
  size : UInt64
  request : GetLogsRequest
  answer : GetLogsAnswer

/-- A call under way, with its attempts so far. -/
structure GetLogsCall where
  blockRange : SmartGetLogs.BlockRange
  attempts : List GetLogsAttempt

/-- Why a call of `get_partial_logs` fails. -/
inductive GetLogsError where
  | rpc (error : RpcError)
  | unordered (fromBlock toBlock : UInt64)
deriving DecidableEq

/-- A call that returned, with all of its attempts. -/
structure GetLogsReturn where
  blockRange : SmartGetLogs.BlockRange
  attempts : List GetLogsAttempt
  result : Except GetLogsError PartialLogs

/-- The errors for which the loop goes on. -/
def RpcError.isRetryable : RpcError → Bool
  | .errorResponse _ => true
  | .internalError _ => true
  | .serdeJsonError _ => true
  | .notFound => false
  | .invalidInput _ => false
  | .unexpectedChainId _ _ => false

namespace SmartGetLogs

def new (addresses : List Address) (firstTopics : List Bytes32) :
    SmartGetLogs where
  addresses := addresses
  firstTopics := firstTopics
  blockRange := { increase := .multiplicative, size := 1 }

/-- The request of the next attempt. -/
def request (self : SmartGetLogs) (fromBlock toBlock : UInt64)
    (size : UInt64) : GetLogsRequest where
  fromBlock := fromBlock
  toBlock := min toBlock
    (Word64.saturatingSub (Word64.saturatingAdd fromBlock size) 1)
  addresses := self.addresses
  firstTopics := self.firstTopics

/-- One turn of the loop.  `answer` is the node and the clock, asked once in
every attempt of the call. -/
def getLogsTurn (self : SmartGetLogs) (answer : Nat → GetLogsAnswer)
    (fromBlock toBlock : UInt64) (call : GetLogsCall) :
    Turn GetLogsCall GetLogsReturn :=
  let blockRange := call.blockRange
  let request := self.request fromBlock toBlock blockRange.size
  let answered := answer call.attempts.length
  let attempts := call.attempts ++ [⟨blockRange.size, request, answered⟩]
  match answered.rpcLogs with
  | .ok rpcLogs =>
      .exit
        { blockRange :=
            if answered.elapsed > softTimeout then
              .onFailure fromBlock request.toBlock
            else
              blockRange.onSuccess fromBlock request.toBlock
          attempts
          result := .ok { toBlock := request.toBlock, logs := rpcLogs } }
  | .error error =>
      if error.isRetryable then
        if blockRange.size = 1 then
          .exit { blockRange, attempts, result := .error (.rpc error) }
        else
          .next
            { blockRange := .onFailure fromBlock request.toBlock, attempts }
      else
        .exit { blockRange, attempts, result := .error (.rpc error) }

/-- A call; `none` is a call whose loop is still running. -/
def getPartialLogs (self : SmartGetLogs) (answer : Nat → GetLogsAnswer)
    (fuel : Nat) (fromBlock toBlock : UInt64) : Option GetLogsReturn :=
  if ¬fromBlock ≤ toBlock then
    some
      { blockRange := self.blockRange
        attempts := []
        result := .error (.unordered fromBlock toBlock) }
  else
    iterate (fun call => some (self.getLogsTurn answer fromBlock toBlock call))
      fuel { blockRange := self.blockRange, attempts := [] }

/-- A call that returns leaves its size in the cell. -/
def Calls (self next : SmartGetLogs) : Prop :=
  ∃ answer fuel fromBlock toBlock returned,
    fromBlock ≤ toBlock ∧ toBlock < Word64.maxValue ∧
      self.getPartialLogs answer fuel fromBlock toBlock = some returned ∧
      next = { self with blockRange := returned.blockRange }

end SmartGetLogs
end RiskManagement
