import RiskManagement.Library.Loops
import RiskManagement.Minieth.Rpc
import RiskManagement.Minieth.Tx

/-!
# The transaction sender

`send` tries to get one transaction into the mempool.  It goes round its loop
again when too many transactions are in flight, when the gas estimate fails and
when the node rejects the transaction, and it keeps a nonce from call to call.

The node and the clock belong to the world.  Every turn asks each of them at
the same places; what a turn skips is left unread.
-/

namespace RiskManagement

open Loops (Turn)

/-- A fee as the configuration file has it. -/
inductive FeeUnit where
  | wei (wei : UInt64)
  | kwei (kwei : UInt64)
  | mwei (mwei : UInt64)
  | gwei (gwei : UInt64)
deriving DecidableEq

/-- The products are taken in `u128`. -/
def FeeUnit.toU256 : FeeUnit → U256
  | .wei amount => .ofUint amount.toNat
  | .kwei amount => .ofUint (amount.toNat * 1000)
  | .mwei amount => .ofUint (amount.toNat * 1000000)
  | .gwei amount => .ofUint (amount.toNat * 1000000000)

/-- Which kind of transaction is sent, and for which fee. -/
inductive TransactionSenderFeeConfig where
  | eip1559 (maxFeePerGas maxPriorityFeePerGas : FeeUnit)
  | legacy (gasPrice : FeeUnit)
deriving DecidableEq

/-- Times are in nanoseconds. -/
structure TransactionSender where
  chainId : UInt64
  feeConfig : TransactionSenderFeeConfig
  signer : EthereumSigner
  previousTransactionCountWithTimestamp : Option (UInt64 × Nat)
  nonce : Option UInt64

/-- What a caller wants to be sent. -/
structure TransactionRequest where
  gas : UInt64
  toAddress : Address
  value : U256
  data : Bytes
deriving DecidableEq

def maxBlockingTime : Nat := 120 * 1000000000
def latestTransactionCountStallThreshold : Nat := 20 * 1000000000
def maxTxsInflight : UInt64 := 16
def ethEstimategasOverestimatePercent : UInt64 := 10

/-- Where a turn reads the clock: at the stall check, for the timestamp of a
new transaction count, when it compares the transactions in flight, and in
`can_retry` after a failed estimate and after a rejected transaction. -/
inductive ClockReading where
  | stallCheck
  | transactionCount
  | inflight
  | estimateRetry
  | sendRetry
deriving DecidableEq

def ClockReading.place : ClockReading → Nat
  | .stallCheck => 1
  | .transactionCount => 2
  | .inflight => 3
  | .estimateRetry => 4
  | .sendRetry => 5

/-- What the node answers in each turn, and a clock that never goes back. -/
structure SendWorld where
  latestTransactionCount : Nat → Except RpcError UInt64
  pendingTransactionCount : Nat → Except RpcError UInt64
  estimateGas : Nat → Address → Address → Bytes → Except RpcError UInt64
  sendRawTransaction : Nat → List UInt8 → Except RpcError Bytes32
  newNonce : Nat → Except RpcError UInt64
  clock : Nat → Nat
  monotone : Monotone clock

namespace SendWorld

/-- `start` of the call. -/
def start (world : SendWorld) : Nat := world.clock 0

def now (world : SendWorld) (turn : Nat) (reading : ClockReading) : Nat :=
  world.clock (5 * turn + reading.place)

/-- `can_retry()` at that time. -/
def canRetry (world : SendWorld) (time : Nat) : Bool :=
  time - world.start < maxBlockingTime

end SendWorld

/-- The three ways back to the head of the loop. -/
inductive RetryEdge where
  | tooManyInflight
  | estimateFailed
  | sendFailed
deriving DecidableEq

/-- A turn that decided to go round again, and when. -/
structure Retry where
  edge : RetryEdge
  decidedAt : Nat
deriving DecidableEq

/-- The loop at the head of a turn, with the retries that led there. -/
structure SendLoop where
  sender : TransactionSender
  turn : Nat
  retries : List Retry

/-- The sender after a call, the turns it has tried again, and its result. -/
structure SendReturn where
  sender : TransactionSender
  retries : List Retry
  result : Except RpcError Bytes32

namespace SendLoop

def new (sender : TransactionSender) : SendLoop where
  sender := sender
  turn := 0
  retries := []

/-- `continue`, or the end of the loop body. -/
def retry (loop : SendLoop) (sender : TransactionSender) (edge : RetryEdge)
    (decidedAt : Nat) : Turn SendLoop SendReturn :=
  .next
    { sender
      turn := loop.turn + 1
      retries := loop.retries ++ [⟨edge, decidedAt⟩] }

def done (loop : SendLoop) (sender : TransactionSender)
    (result : Except RpcError Bytes32) : Turn SendLoop SendReturn :=
  .exit { sender, retries := loop.retries, result }

end SendLoop

namespace TransactionSender

def new (chainId : UInt64) (feeConfig : TransactionSenderFeeConfig)
    (signer : EthereumSigner) : TransactionSender where
  chainId := chainId
  feeConfig := feeConfig
  signer := signer
  previousTransactionCountWithTimestamp := none
  nonce := none

/-- The count fell, or has not moved for too long. -/
def isStalled (world : SendWorld) (turn : Nat)
    (latestTransactionCount previousTransactionCount : UInt64)
    (previousTimestamp : Nat) : Bool :=
  previousTransactionCount > latestTransactionCount ∨
    previousTransactionCount = latestTransactionCount ∧
      world.now turn .stallCheck - previousTimestamp >
        latestTransactionCountStallThreshold

/-- The nonce is given up when the count stalls, and the previous count when it
stalls or grows. -/
def checkStall (self : TransactionSender) (world : SendWorld) (turn : Nat)
    (latestTransactionCount : UInt64) : TransactionSender :=
  match self.previousTransactionCountWithTimestamp with
  | some (previousTransactionCount, previousTimestamp) =>
      if isStalled world turn latestTransactionCount previousTransactionCount
          previousTimestamp then
        { self with
          nonce := none
          previousTransactionCountWithTimestamp := none }
      else if previousTransactionCount < latestTransactionCount then
        { self with previousTransactionCountWithTimestamp := none }
      else
        self
  | none => self

/-- The first count is remembered with its time. -/
def notePreviousCount (self : TransactionSender) (world : SendWorld)
    (turn : Nat) (latestTransactionCount : UInt64) : TransactionSender :=
  if self.previousTransactionCountWithTimestamp.isNone then
    { self with
      previousTransactionCountWithTimestamp :=
        some (latestTransactionCount, world.now turn .transactionCount) }
  else
    self

/-- The bytes that are sent to the node. -/
def signedBytes (self : TransactionSender) (keccak : Keccak)
    (txReq : TransactionRequest) (gas nonce : UInt64) : List UInt8 :=
  match self.feeConfig with
  | .eip1559 maxFeePerGas maxPriorityFeePerGas =>
      let request : Eip1559TransactionRequest :=
        { chainId := self.chainId
          accessList := []
          data := txReq.data
          gas := .ofUint gas.toNat
          maxFeePerGas := maxFeePerGas.toU256
          maxPriorityFeePerGas := maxPriorityFeePerGas.toU256
          nonce := .ofUint nonce.toNat
          toAddress := txReq.toAddress
          value := txReq.value }
      (request.sign keccak self.signer).value.toRlpBytes
  | .legacy gasPrice =>
      let request : LegacyTransactionRequest :=
        { chainId := self.chainId
          data := txReq.data
          gas := .ofUint gas.toNat
          gasPrice := gasPrice.toU256
          nonce := .ofUint nonce.toNat
          toAddress := txReq.toAddress
          value := txReq.value }
      (request.sign keccak self.signer).value.toRlpBytes

variable (keccak : Keccak) (world : SendWorld) (txReq : TransactionRequest)

/-- The rest of a turn, once the gas is known. -/
def sendRaw (self : TransactionSender) (loop : SendLoop)
    (gas nonce : UInt64) : Turn SendLoop SendReturn :=
  match world.sendRawTransaction loop.turn
      (self.signedBytes keccak txReq gas nonce) with
  | .ok txid => loop.done { self with nonce := some (nonce + 1) } (.ok txid)
  | .error (.errorResponse detail) =>
      if world.canRetry (world.now loop.turn .sendRetry) then
        match world.newNonce loop.turn with
        | .ok newNonce =>
            loop.retry { self with nonce := some newNonce } .sendFailed
              (world.now loop.turn .sendRetry)
        | .error error => loop.done self (.error error)
      else
        loop.done self (.error (.errorResponse detail))
  | .error error => loop.done self (.error error)

/-- The rest of a turn, once the nonce is chosen. -/
def estimateAndSend (self : TransactionSender) (loop : SendLoop)
    (nonce : UInt64) : Turn SendLoop SendReturn :=
  match world.estimateGas loop.turn self.signer.address txReq.toAddress
      txReq.data with
  | .ok gasEstimate =>
      self.sendRaw keccak world txReq loop
        (max (Word64.saturatingMul gasEstimate
          (100 + ethEstimategasOverestimatePercent) / 100) txReq.gas) nonce
  | .error error =>
      if world.canRetry (world.now loop.turn .estimateRetry) then
        loop.retry self .estimateFailed (world.now loop.turn .estimateRetry)
      else
        loop.done self (.error error)

/-- One turn of the loop of `send`. -/
def sendTurn (loop : SendLoop) : Turn SendLoop SendReturn :=
  match world.latestTransactionCount loop.turn with
  | .error error => loop.done loop.sender (.error error)
  | .ok latestTransactionCount =>
      match world.pendingTransactionCount loop.turn with
      | .error error => loop.done loop.sender (.error error)
      | .ok pendingTransactionCount =>
          let txsInflight := Word64.saturatingSub pendingTransactionCount
            latestTransactionCount
          let sender := (loop.sender.checkStall world loop.turn
            latestTransactionCount).notePreviousCount world loop.turn
              latestTransactionCount
          match sender.nonce with
          | some nonce =>
              if txsInflight > maxTxsInflight then
                loop.retry sender .tooManyInflight
                  (world.now loop.turn .inflight)
              else
                sender.estimateAndSend keccak world txReq loop nonce
          | none =>
              sender.estimateAndSend keccak world txReq loop
                latestTransactionCount

/-- A call; `none` is a call whose loop is still running. -/
def send (self : TransactionSender) (fuel : Nat) : Option SendReturn :=
  Loops.iterate (fun loop => some (sendTurn keccak world txReq loop)) fuel
    (.new self)

end TransactionSender
end RiskManagement
