import RiskManagement.Afn.ChainStatus
import RiskManagement.Afn.Common

/-!
# The contract event state machine

A machine replays the logs of a chain into a state, one page of logs at a
time.  Its three lock-protected cells are updated together by `update`, so the
machine is one value and every method returns the machine it leaves behind.
The error texts of the environment are kept; those the machine makes itself
are the constructors of `MachineError`.
-/

namespace RiskManagement

/-- Decodes the logs that a machine is given. -/
class ContractEventFilter (Filter : Type) (Event : outParam Type) where
  decodeLog : Filter → EVMLog → Except DecodeLogError Event

/-- The errors of the three `update_with_event`, one for each text, and the
panic of a bit set that cannot grow to a sequence number. -/
inductive StateError where
  | laneTypeMismatch (expected : LaneType)
  | hashMismatch (seqNr : UInt64) (computed contained : Bytes32)
  | notContiguous (lastSeqNr seqNr : UInt64)
  | firstSeqNr (seqNr : UInt64)
  | bitSetPanics (seqNr : UInt64)
deriving DecidableEq

/-- A replayed state.  `update_with_event` takes `&mut self`, so the state it
leaves behind is returned with its error too. -/
class State (S : Type) (Filter Event : outParam Type) where
  updateWithEvent : S → (blockNumber : UInt64) → (blockHash : Bytes32) →
    (address : Address) → Filter → Event → S × Except StateError Unit

/-- A corrupted machine has no block to go on from. -/
inductive UpdateProgress where
  | nextStartBlockNumber (number : UInt64)
  | corrupted
deriving DecidableEq

/-- Whether an update has reached the last block it may read. -/
inductive ContractStateMachineUpdateResult where
  | complete
  | partialUpTo (blockNumber : UInt64)
deriving DecidableEq

/-- Which end of the chain a machine follows. -/
inductive Finality where
  | stable
  | unstable
deriving DecidableEq

/-- Every way in which an update fails. -/
inductive MachineError where
  | brokeDown
  | finalityViolated
  | rpc (detail : String)
  | notInChainStatus (blockNumber : UInt64) (chainStatus : ChainStatus)
  | mismatch (sameBlockFromTail : Block) (log : EVMLog)
  | decode (error : DecodeLogError)
  | event (error : StateError)
deriving DecidableEq

/-- A page of logs and the last block it covers. -/
structure PartialLogs where
  toBlock : UInt64
  logs : List EVMLog
deriving DecidableEq

/-- One answer of `CachedRpc::get_partial_logs(from, to, cache)`. -/
abbrev GetPartialLogs := UInt64 → UInt64 → Bool → Except String PartialLogs

/-- The three locked cells of a machine and what it was made with. -/
structure ContractEventStateMachine (S Filter : Type) where
  addresses : List Address
  updateProgress : UpdateProgress
  timestamp : Option UInt64
  state : S
  contractEventFilter : Filter
deriving DecidableEq

/-- How one log, or a whole page, leaves the loop of `update`: applied, left
through an exit that marks the machine corrupted, or left through `?`. -/
inductive Applied (S : Type) where
  | ok (state : S)
  | corrupting (state : S) (error : MachineError)
  | exit (state : S) (error : MachineError)

/-- The last block that a machine may read. -/
def Finality.maxEndBlockNumber (tail : Tail) : Finality → UInt64
  | .stable => tail.stableTip.number
  | .unstable => tail.tip.number

/-- `matches!(finality, Finality::Stable)`, the flag that allows the cache. -/
def Finality.usesCache : Finality → Bool
  | .stable => true
  | .unstable => false

section Loop

variable {S Filter Event : Type} [ContractEventFilter Filter Event]
  [State S Filter Event]

/-- Decoding a log and handing its event to the state. -/
def applyEvent (filter : Filter) (state : S) (log : EVMLog) : Applied S :=
  match ContractEventFilter.decodeLog filter log with
  | .error error => .exit state (.decode error)
  | .ok event =>
      match State.updateWithEvent state log.blockNumber log.blockHash
          log.address filter event with
      | (next, .error error) => .corrupting next (.event error)
      | (next, .ok ()) => .ok next

/-- One iteration of the loop over the fetched logs. -/
def applyLog (filter : Filter) (finality : Finality)
    (chainStatus : ChainStatus) (state : S) (log : EVMLog) : Applied S :=
  match finality with
  | .stable => applyEvent filter state log
  | .unstable =>
      match chainStatus.blockByNumber log.blockNumber with
      | none =>
          .exit state (.notInChainStatus log.blockNumber chainStatus)
      | some sameBlockFromTail =>
          if sameBlockFromTail.hash ≠ log.blockHash then
            .corrupting state (.mismatch sameBlockFromTail log)
          else
            applyEvent filter state log

/-- The loop over a page: the first log that cannot be applied ends it. -/
def applyLogs (filter : Filter) (finality : Finality)
    (chainStatus : ChainStatus) (state : S) : List EVMLog → Applied S
  | [] => .ok state
  | log :: logs =>
      match applyLog filter finality chainStatus state log with
      | .ok next => applyLogs filter finality chainStatus next logs
      | .corrupting next error => .corrupting next error
      | .exit next error => .exit next error

namespace ContractEventStateMachine

/-- A machine that has read nothing. -/
def new (startBlockNumber : UInt64) (addresses : List Address)
    (initialState : S) (contractEventFilter : Filter) :
    ContractEventStateMachine S Filter where
  addresses := addresses
  updateProgress := .nextStartBlockNumber startBlockNumber
  timestamp := none
  state := initialState
  contractEventFilter := contractEventFilter

/-- The machine after a page of logs.  `end_block_number + 1` wraps, as it
does in a release build. -/
def finishPage (self : ContractEventStateMachine S Filter) (tail : Tail)
    (finality : Finality) (partialLogs : PartialLogs) : Applied S →
    ContractEventStateMachine S Filter ×
      Except MachineError ContractStateMachineUpdateResult
  | .exit state error => ({ self with state := state }, .error error)
  | .corrupting state error =>
      ({ self with state := state, updateProgress := .corrupted },
        .error error)
  | .ok state =>
      let endBlockNumber := partialLogs.toBlock
      let progressed : ContractEventStateMachine S Filter :=
        { self with
          state := state
          updateProgress := .nextStartBlockNumber (endBlockNumber + 1) }
      if endBlockNumber = finality.maxEndBlockNumber tail then
        ({ progressed with timestamp := some tail.tip.timestamp },
          .ok .complete)
      else
        (progressed, .ok (.partialUpTo endBlockNumber))

theorem finishPage_whole (self : ContractEventStateMachine S Filter)
    {tail : Tail} {finality : Finality} {partialLogs : PartialLogs}
    (state : S)
    (whole : partialLogs.toBlock = finality.maxEndBlockNumber tail) :
    self.finishPage tail finality partialLogs (.ok state) =
      ({ self with
          state := state
          timestamp := some tail.tip.timestamp
          updateProgress := .nextStartBlockNumber (partialLogs.toBlock + 1) },
        .ok .complete) :=
  if_pos whole

theorem finishPage_partial (self : ContractEventStateMachine S Filter)
    {tail : Tail} {finality : Finality} {partialLogs : PartialLogs}
    (state : S)
    (cut : partialLogs.toBlock ≠ finality.maxEndBlockNumber tail) :
    self.finishPage tail finality partialLogs (.ok state) =
      ({ self with
          state := state
          updateProgress := .nextStartBlockNumber (partialLogs.toBlock + 1) },
        .ok (.partialUpTo partialLogs.toBlock)) :=
  if_neg cut

/-- Fetches one page of logs and applies it. -/
def update (self : ContractEventStateMachine S Filter)
    (getPartialLogs : GetPartialLogs) (chainStatus : ChainStatus)
    (finality : Finality) :
    ContractEventStateMachine S Filter ×
      Except MachineError ContractStateMachineUpdateResult :=
  match self.updateProgress with
  | .corrupted => (self, .error .brokeDown)
  | .nextStartBlockNumber startBlockNumber =>
      match chainStatus with
      | .finalityViolated =>
          ({ self with updateProgress := .corrupted },
            .error .finalityViolated)
      | .good tail =>
          if finality.maxEndBlockNumber tail < startBlockNumber then
            ({ self with timestamp := some tail.tip.timestamp },
              .ok .complete)
          else
            match getPartialLogs startBlockNumber
                (finality.maxEndBlockNumber tail) finality.usesCache with
            | .error detail => (self, .error (.rpc detail))
            | .ok partialLogs =>
                self.finishPage tail finality partialLogs
                  (applyLogs self.contractEventFilter finality chainStatus
                    self.state partialLogs.logs)

/-- `fork_from` copies the three cells; the addresses must agree. -/
def forkFrom (self other : ContractEventStateMachine S Filter) :
    Except String (ContractEventStateMachine S Filter) :=
  if other.addresses ≠ self.addresses then
    .error "addresses mismatch"
  else
    .ok { self with
      updateProgress := other.updateProgress
      state := other.state
      timestamp := other.timestamp }

end ContractEventStateMachine

/-- How the loop around `update` ends; `outOfFuel` is the loop that is still
running. -/
inductive KeepUpdating where
  | finished
  | failed (error : MachineError)
  | outOfFuel
deriving DecidableEq

/-- The loop around `update`.  `isDone` and `answers` give what `ctx.is_done()`
and the RPC say in each iteration. -/
def keepUpdatingUntilCompleteOrShutdownRequest (isDone : Nat → Bool)
    (answers : Nat → GetPartialLogs) (chainStatus : ChainStatus)
    (finality : Finality) :
    Nat → Nat → ContractEventStateMachine S Filter →
      ContractEventStateMachine S Filter × KeepUpdating
  | 0, _, machine => (machine, .outOfFuel)
  | fuel + 1, iteration, machine =>
      if isDone iteration then
        (machine, .finished)
      else
        match machine.update (answers iteration) chainStatus finality with
        | (next, .error error) => (next, .failed error)
        | (next, .ok .complete) => (next, .finished)
        | (next, .ok (.partialUpTo _)) =>
            keepUpdatingUntilCompleteOrShutdownRequest isDone answers
              chainStatus finality fuel (iteration + 1) next

end Loop

end RiskManagement
