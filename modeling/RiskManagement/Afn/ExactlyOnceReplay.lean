import RiskManagement.Afn.CacheTransparency
import RiskManagement.Afn.EventReplay
import RiskManagement.Afn.LogsClient

/-!
# A stable machine replays every log exactly once

The machine is compared with one fold over the chain's logs from its start
block.  Pages may end anywhere and calls may fail in between.  The machine adds
one to the number of a page's last block without a check; that it does not wrap
is due to the client.
-/

namespace RiskManagement

open Loops (iterate)

/-- One call of `update` with `Finality::Stable`. -/
structure StableCall where
  getPartialLogs : GetPartialLogs
  chainStatus : ChainStatus

/-- A call that the cached client answers from the chain. -/
structure StableCall.Served (call : StableCall) (chain : LogChain) :
    Prop where
  servedBy : chain.ServedBy call.getPartialLogs
  fromClient : call.getPartialLogs.FromClient

variable {S Filter Event : Type} [ContractEventFilter Filter Event]
  [State S Filter Event]

namespace ContractEventStateMachine

/-- The update of a stable machine. -/
def updateStable (self : ContractEventStateMachine S Filter)
    (call : StableCall) : ContractEventStateMachine S Filter ×
      Except MachineError ContractStateMachineUpdateResult :=
  self.update call.getPartialLogs call.chainStatus .stable

/-- The machine after a sequence of calls, whatever they returned. -/
def runStable (self : ContractEventStateMachine S Filter)
    (calls : List StableCall) : ContractEventStateMachine S Filter :=
  calls.foldl (fun machine call => (machine.updateStable call).1) self

/-- The machine stands before block `next` and holds the fold over the logs of
the blocks before it. -/
structure ReplayedUpTo (machine : ContractEventStateMachine S Filter)
    (chain : LogChain) (filter : Filter) (initialState : S)
    (start next : UInt64) : Prop where
  progress : machine.updateProgress = .nextStartBlockNumber next
  filter_eq : machine.contractEventFilter = filter
  start_le : start ≤ next
  replayed : replay filter initialState
    (chain.between start.toNat next.toNat) = some machine.state

theorem new_replayedUpTo (chain : LogChain) (start : UInt64)
    (addresses : List Address) (initialState : S) (filter : Filter) :
    (new start addresses initialState filter).ReplayedUpTo chain filter
      initialState start start := by
  constructor
  · rfl
  · rfl
  · exact UInt64.le_refl start
  · rw [chain.between_self]
    rfl

section Step

variable {chain : LogChain} {filter : Filter} {initialState : S}
  {start : UInt64}

/-- All that a stable call can do to a machine that stands before `next`. -/
inductive StableOutcome (chain : LogChain) (filter : Filter)
    (initialState : S) (start next : UInt64) (chainStatus : ChainStatus) :
    ContractEventStateMachine S Filter ×
      Except MachineError ContractStateMachineUpdateResult → Prop where
  | finalityViolated {after : ContractEventStateMachine S Filter} :
      after.updateProgress = .corrupted →
      StableOutcome chain filter initialState start next chainStatus
        (after, .error .finalityViolated)
  | rejected {after : ContractEventStateMachine S Filter}
      {error : StateError} :
      after.updateProgress = .corrupted →
      chainStatus ≠ .finalityViolated →
      StableOutcome chain filter initialState start next chainStatus
        (after, .error (.event error))
  | notFetched {after : ContractEventStateMachine S Filter}
      {detail : String} :
      after.ReplayedUpTo chain filter initialState start next →
      chainStatus ≠ .finalityViolated →
      StableOutcome chain filter initialState start next chainStatus
        (after, .error (.rpc detail))
  | complete {after : ContractEventStateMachine S Filter} {tail : Tail}
      {reached : UInt64} :
      after.ReplayedUpTo chain filter initialState start reached →
      chainStatus = .good tail →
      tail.stableTip.number < reached →
      StableOutcome chain filter initialState start next chainStatus
        (after, .ok .complete)
  | partialUpTo {after : ContractEventStateMachine S Filter} {tail : Tail}
      {blockNumber reached : UInt64} :
      after.ReplayedUpTo chain filter initialState start reached →
      chainStatus = .good tail →
      next < reached →
      reached ≤ tail.stableTip.number →
      StableOutcome chain filter initialState start next chainStatus
        (after, .ok (.partialUpTo blockNumber))

/-- A page that is applied to its end moves the machine past its block. -/
theorem ReplayedUpTo.page {self : ContractEventStateMachine S Filter}
    {next : UInt64}
    (replayed : self.ReplayedUpTo chain filter initialState start next)
    {page : PartialLogs} {last : S}
    (forward : next ≤ page.toBlock)
    (below : page.toBlock ≠ Word64.maxValue)
    (logs : page.logs =
      chain.between next.toNat (page.toBlock.toNat + 1))
    (applied : replay filter self.state page.logs = some last)
    {timestamp : Option UInt64} :
    ReplayedUpTo
      { self with
        state := last
        timestamp := timestamp
        updateProgress := .nextStartBlockNumber (page.toBlock + 1) }
      chain filter initialState start (page.toBlock + 1) := by
  have successor := Word64.toNat_add_one below
  have startLe := UInt64.le_iff_toNat_le.mp replayed.start_le
  have nextLe := UInt64.le_iff_toNat_le.mp forward
  constructor
  · rfl
  · exact replayed.filter_eq
  · rw [UInt64.le_iff_toNat_le]
    omega
  · rw [successor, ← chain.between_append startLe
        (by omega : next.toNat ≤ page.toBlock.toNat + 1),
      replay_append, replayed.replayed, ← logs]
    exact applied

/-- A page that is applied to its end is the last one or stays at or below the
stable tip. -/
theorem ReplayedUpTo.pageOutcome {self : ContractEventStateMachine S Filter}
    {next : UInt64}
    (replayed : self.ReplayedUpTo chain filter initialState start next)
    {chainStatus : ChainStatus} {tail : Tail}
    (isGood : chainStatus = .good tail) {page : PartialLogs} {last : S}
    (forward : next ≤ page.toBlock)
    (notPast : page.toBlock ≤ tail.stableTip.number)
    (below : page.toBlock ≠ Word64.maxValue)
    (logs : page.logs =
      chain.between next.toNat (page.toBlock.toNat + 1))
    (applied : replay filter self.state page.logs = some last) :
    StableOutcome chain filter initialState start next chainStatus
      (self.finishPage tail .stable page (.ok last)) := by
  have successor := Word64.toNat_add_one below
  by_cases whole : page.toBlock = tail.stableTip.number
  · rw [self.finishPage_whole last whole]
    refine .complete (replayed.page forward below logs applied) isGood ?_
    rw [UInt64.lt_iff_toNat_lt, successor, ← whole]
    exact Nat.lt_succ_self _
  · rw [self.finishPage_partial last whole]
    refine .partialUpTo (replayed.page forward below logs applied) isGood
      ?_ ?_
    · rw [UInt64.lt_iff_toNat_lt, successor]
      exact Nat.lt_succ_of_le (UInt64.le_iff_toNat_le.mp forward)
    · have short := UInt64.lt_of_le_of_ne notPast whole
      rw [UInt64.le_iff_toNat_le, successor]
      exact UInt64.lt_iff_toNat_lt.mp short

theorem updateStable_outcome {self : ContractEventStateMachine S Filter}
    {next : UInt64}
    (replayed : self.ReplayedUpTo chain filter initialState start next)
    (decodes : ∀ log ∈ chain.logs, ∃ event,
      ContractEventFilter.decodeLog filter log = .ok event)
    {call : StableCall} (served : call.Served chain) :
    StableOutcome chain filter initialState start next call.chainStatus
      (self.updateStable call) := by
  have updates := self.update_updates call.getPartialLogs call.chainStatus
    .stable
  rw [updateStable]
  generalize self.update call.getPartialLogs call.chainStatus .stable = result
    at updates
  cases updates with
  | brokeDown corrupted =>
      rw [replayed.progress] at corrupted
      cases corrupted
  | finalityViolated _ _ => exact .finalityViolated rfl
  | @upToDate first tail progress isGood above =>
      rw [replayed.progress] at progress
      cases progress
      refine .complete ?_ isGood above
      exact ⟨replayed.progress, replayed.filter_eq, replayed.start_le,
        replayed.replayed⟩
  | notFetched progress isGood _ _ =>
      refine .notFetched replayed ?_
      rw [isGood]
      simp
  | @page first tail page applied progress isGood order fetched applies =>
      rw [replayed.progress] at progress
      cases progress
      have logs := served.servedBy.logs_eq _ _ _ _ order fetched
      rw [replayed.filter_eq] at applies
      cases applied with
      | ok last =>
          apply replayed.pageOutcome isGood
          · exact served.servedBy.from_le _ _ _ _ order fetched
          · exact served.servedBy.le_to _ _ _ _ order fetched
          · exact (served.fromClient.endsWithin fetched).ne_maxValue
          · exact logs
          · exact applies.of_ok.1
      | corrupting last error =>
          rcases applies.of_corrupting with ⟨rejection, rfl⟩ | ⟨unstable, _⟩
          · refine .rejected rfl ?_
            rw [isGood]
            simp
          · cases unstable
      | exit last error =>
          have pageDecodes : ∀ log ∈ page.logs, ∃ event,
              ContractEventFilter.decodeLog filter log = .ok event := by
            intro log member
            rw [logs] at member
            exact decodes log (LogChain.mem_between.mp member).1
          obtain ⟨unstable, _⟩ := applies.absent_of_exit pageDecodes
          cases unstable

/-- A machine that has corrupted itself, or holds the fold up to its own
progress. -/
def Replaying (machine : ContractEventStateMachine S Filter)
    (chain : LogChain) (filter : Filter) (initialState : S)
    (start : UInt64) : Prop :=
  machine.updateProgress = .corrupted ∨
    ∃ next, machine.ReplayedUpTo chain filter initialState start next

theorem StableOutcome.replaying {next : UInt64} {chainStatus : ChainStatus}
    {result : ContractEventStateMachine S Filter ×
      Except MachineError ContractStateMachineUpdateResult}
    (outcome : StableOutcome chain filter initialState start next chainStatus
      result) :
    result.1.Replaying chain filter initialState start := by
  cases outcome with
  | finalityViolated corrupted => exact .inl corrupted
  | rejected corrupted _ => exact .inl corrupted
  | notFetched replayed _ => exact .inr ⟨next, replayed⟩
  | complete replayed _ _ => exact .inr ⟨_, replayed⟩
  | partialUpTo replayed _ _ _ => exact .inr ⟨_, replayed⟩

theorem runStable_corrupted {self : ContractEventStateMachine S Filter}
    (corrupted : self.updateProgress = .corrupted)
    (calls : List StableCall) : self.runStable calls = self := by
  apply List.foldl_fixed'
  intro call
  rw [updateStable, update_corrupted corrupted]

theorem runStable_replaying {self : ContractEventStateMachine S Filter}
    (decodes : ∀ log ∈ chain.logs, ∃ event,
      ContractEventFilter.decodeLog filter log = .ok event)
    (replaying : self.Replaying chain filter initialState start)
    {calls : List StableCall}
    (served : ∀ call ∈ calls, call.Served chain) :
    (self.runStable calls).Replaying chain filter initialState start := by
  induction calls generalizing self with
  | nil => exact replaying
  | cons call calls induction =>
      have restServed : ∀ later ∈ calls, later.Served chain := by
        intro later member
        exact served later (List.mem_cons_of_mem call member)
      rcases replaying with corrupted | ⟨next, replayed⟩
      · rw [runStable_corrupted corrupted]
        exact .inl corrupted
      · have outcome := updateStable_outcome replayed decodes
          (served call List.mem_cons_self)
        exact induction outcome.replaying restServed

/-- Every partial page brings the machine closer to the stable tip, so fuel
for the distance ends the loop. -/
theorem keepUpdating_ne_outOfFuel
    (decodes : ∀ log ∈ chain.logs, ∃ event,
      ContractEventFilter.decodeLog filter log = .ok event)
    {tail : Tail} {isDone : Nat → Bool} {answers : Nat → GetPartialLogs}
    (served : ∀ iteration,
      StableCall.Served ⟨answers iteration, .good tail⟩ chain)
    {fuel iteration : Nat} {self : ContractEventStateMachine S Filter}
    {next : UInt64}
    (replayed : self.ReplayedUpTo chain filter initialState start next)
    (enough : tail.stableTip.number.toNat + 1 - next.toNat < fuel) :
    (keepUpdatingUntilCompleteOrShutdownRequest isDone answers (.good tail)
      .stable fuel iteration self).2 ≠ .outOfFuel := by
  induction fuel generalizing iteration self next with
  | zero => exact absurd enough (Nat.not_lt_zero _)
  | succ fuel induction =>
      rw [keepUpdatingUntilCompleteOrShutdownRequest]
      by_cases done : isDone iteration
      · simp [done]
      · have outcome := updateStable_outcome replayed decodes
          (served iteration)
        simp only [updateStable] at outcome
        simp only [done, Bool.false_eq_true, ↓reduceIte]
        generalize self.update (answers iteration) (.good tail) .stable =
          result at outcome
        cases outcome with
        | finalityViolated _ => simp
        | rejected _ _ => simp
        | notFetched _ _ => simp
        | complete _ _ _ => simp
        | partialUpTo further isGood forward notPast =>
            cases isGood
            apply induction further
            rw [UInt64.lt_iff_toNat_lt] at forward
            rw [UInt64.le_iff_toNat_le] at notPast
            omega

/-- What holds of a machine that is replaying a chain exactly once. -/
structure ExactlyOnce (machine : ContractEventStateMachine S Filter)
    (chain : LogChain) (filter : Filter) (initialState : S)
    (start : UInt64) : Prop where
  replaying : machine.Replaying chain filter initialState start
  complete_caughtUp : ∀ call : StableCall, call.Served chain →
    (machine.updateStable call).2 = .ok .complete →
      ∃ tail next, call.chainStatus = .good tail ∧
        (machine.updateStable call).1.updateProgress =
          .nextStartBlockNumber next ∧
        tail.stableTip.number < next
  partial_advances : ∀ (call : StableCall) (blockNumber : UInt64),
    call.Served chain →
    (machine.updateStable call).2 = .ok (.partialUpTo blockNumber) →
      ∃ tail before after, call.chainStatus = .good tail ∧
        machine.updateProgress = .nextStartBlockNumber before ∧
        (machine.updateStable call).1.updateProgress =
          .nextStartBlockNumber after ∧
        before < after ∧ after ≤ tail.stableTip.number
  loop_terminates : ∀ (chainStatus : ChainStatus) (isDone : Nat → Bool)
    (answers : Nat → GetPartialLogs) (fuel iteration : Nat),
    (∀ index, StableCall.Served ⟨answers index, chainStatus⟩ chain) →
    2 ^ 64 < fuel →
      (keepUpdatingUntilCompleteOrShutdownRequest isDone answers chainStatus
        .stable fuel iteration machine).2 ≠ .outOfFuel
  failure_final : ∀ call : StableCall, call.Served chain →
    (call.chainStatus = .finalityViolated ∨
      ∃ error, (machine.updateStable call).2 = .error (.event error)) →
    ∀ (later : List StableCall) (next : StableCall),
      ((machine.updateStable call).1.runStable later).state =
          (machine.updateStable call).1.state ∧
        (((machine.updateStable call).1.runStable later).updateStable
          next).2 = .error .brokeDown

/-- A corrupted machine ends the loop in its first iteration. -/
theorem keepUpdating_corrupted {self : ContractEventStateMachine S Filter}
    (corrupted : self.updateProgress = .corrupted) (isDone : Nat → Bool)
    (answers : Nat → GetPartialLogs) (chainStatus : ChainStatus)
    (finality : Finality) (fuel iteration : Nat) :
    (keepUpdatingUntilCompleteOrShutdownRequest isDone answers chainStatus
      finality (fuel + 1) iteration self).2 ≠ .outOfFuel := by
  rw [keepUpdatingUntilCompleteOrShutdownRequest]
  by_cases done : isDone iteration
  · simp [done]
  · simp [done, update_corrupted corrupted]

/-- A violated status ends the loop in its first iteration. -/
theorem keepUpdating_finalityViolated
    (self : ContractEventStateMachine S Filter) (isDone : Nat → Bool)
    (answers : Nat → GetPartialLogs) (finality : Finality)
    (fuel iteration : Nat) :
    (keepUpdatingUntilCompleteOrShutdownRequest isDone answers
      .finalityViolated finality (fuel + 1) iteration self).2 ≠
        .outOfFuel := by
  rw [keepUpdatingUntilCompleteOrShutdownRequest]
  by_cases done : isDone iteration
  · simp [done]
  · simp only [done, Bool.false_eq_true, ↓reduceIte, update]
    cases self.updateProgress with
    | corrupted => simp
    | nextStartBlockNumber _ => simp

theorem Replaying.keepUpdating_ne_outOfFuel
    {machine : ContractEventStateMachine S Filter}
    (replaying : machine.Replaying chain filter initialState start)
    (decodes : ∀ log ∈ chain.logs, ∃ event,
      ContractEventFilter.decodeLog filter log = .ok event)
    {chainStatus : ChainStatus} {isDone : Nat → Bool}
    {answers : Nat → GetPartialLogs}
    (served : ∀ iteration,
      StableCall.Served ⟨answers iteration, chainStatus⟩ chain)
    {fuel iteration : Nat} (enough : 2 ^ 64 < fuel) :
    (keepUpdatingUntilCompleteOrShutdownRequest isDone answers chainStatus
      .stable fuel iteration machine).2 ≠ .outOfFuel := by
  obtain ⟨fuel, rfl⟩ : ∃ rest, fuel = rest + 1 := ⟨fuel - 1, by omega⟩
  rcases replaying with corrupted | ⟨next, replayed⟩
  · exact keepUpdating_corrupted corrupted _ _ _ _ _ _
  · cases chainStatus with
    | finalityViolated => exact keepUpdating_finalityViolated _ _ _ _ _ _
    | good tail =>
        apply ContractEventStateMachine.keepUpdating_ne_outOfFuel decodes
          served replayed
        have bound := Word64.toNat_lt_size tail.stableTip.number
        omega

/-- After a rejected event or a violated status the machine is corrupted. -/
theorem Replaying.corrupted_of_failure
    {machine : ContractEventStateMachine S Filter}
    (replaying : machine.Replaying chain filter initialState start)
    (decodes : ∀ log ∈ chain.logs, ∃ event,
      ContractEventFilter.decodeLog filter log = .ok event)
    {call : StableCall} (served : call.Served chain)
    (failure : call.chainStatus = .finalityViolated ∨
      ∃ error, (machine.updateStable call).2 = .error (.event error)) :
    (machine.updateStable call).1.updateProgress = .corrupted := by
  rcases replaying with corrupted | ⟨next, replayed⟩
  · rw [updateStable, update_corrupted corrupted]
    exact corrupted
  · have outcome := updateStable_outcome replayed decodes served
    generalize machine.updateStable call = result at outcome failure
    cases outcome with
    | finalityViolated corrupted => exact corrupted
    | rejected corrupted _ => exact corrupted
    | notFetched _ notViolated =>
        rcases failure with violated | ⟨error, isEvent⟩
        · exact absurd violated notViolated
        · cases isEvent
    | complete _ isGood _ =>
        rcases failure with violated | ⟨error, isEvent⟩
        · rw [isGood] at violated
          cases violated
        · cases isEvent
    | partialUpTo _ isGood _ _ =>
        rcases failure with violated | ⟨error, isEvent⟩
        · rw [isGood] at violated
          cases violated
        · cases isEvent

/-- Calls that the cached client answers from the chain replay the chain
exactly once. -/
theorem exactly_once_replay {chain : LogChain} {filter : Filter}
    (decodes : ∀ log ∈ chain.logs, ∃ event,
      ContractEventFilter.decodeLog filter log = .ok event)
    (start : UInt64) (addresses : List Address) (initialState : S)
    {calls : List StableCall}
    (served : ∀ call ∈ calls, call.Served chain) :
    ((new start addresses initialState filter).runStable calls).ExactlyOnce
      chain filter initialState start := by
  have replaying := runStable_replaying decodes
    (.inr ⟨start, new_replayedUpTo chain start addresses initialState filter⟩)
    served
  generalize (new start addresses initialState filter).runStable calls =
    machine at replaying
  constructor
  · exact replaying
  · intro call callServed isComplete
    rcases replaying with corrupted | ⟨next, replayed⟩
    · rw [updateStable, update_corrupted corrupted] at isComplete
      cases isComplete
    · have outcome := updateStable_outcome replayed decodes callServed
      generalize machine.updateStable call = result at outcome isComplete
      cases outcome with
      | complete further isGood caughtUp =>
          exact ⟨_, _, isGood, further.progress, caughtUp⟩
      | finalityViolated _ => cases isComplete
      | rejected _ _ => cases isComplete
      | notFetched _ _ => cases isComplete
      | partialUpTo _ _ _ _ => cases isComplete
  · intro call blockNumber callServed isPartial
    rcases replaying with corrupted | ⟨next, replayed⟩
    · rw [updateStable, update_corrupted corrupted] at isPartial
      cases isPartial
    · have outcome := updateStable_outcome replayed decodes callServed
      generalize machine.updateStable call = result at outcome isPartial
      cases outcome with
      | partialUpTo further isGood forward notPast =>
          exact ⟨_, next, _, isGood, replayed.progress, further.progress,
            forward, notPast⟩
      | finalityViolated _ => cases isPartial
      | rejected _ _ => cases isPartial
      | notFetched _ _ => cases isPartial
      | complete _ _ _ => cases isPartial
  · intro chainStatus isDone answers fuel iteration answersServed enough
    exact replaying.keepUpdating_ne_outOfFuel decodes answersServed enough
  · intro call callServed failure later next
    have corrupted := replaying.corrupted_of_failure decodes callServed
      failure
    rw [runStable_corrupted corrupted]
    refine ⟨rfl, ?_⟩
    rw [updateStable, update_corrupted corrupted]

end Step

end ContractEventStateMachine

/-! ### The cached client -/

/-- A client whose database caches the chain, and whose node serves it. -/
theorem CachedRpc.answers_served {rpc : CachedRpc} {env : CachedRpcEnv}
    {chain : LogChain} (caches : rpc.db.Caches chain)
    (cacheable : chain.Cacheable) (serves : env.Serves chain)
    (fetches : env.Fetches) (chainStatus : ChainStatus) :
    StableCall.Served ⟨rpc.answers env, chainStatus⟩ chain where
  servedBy := CachedRpc.getPartialLogs_servedBy caches cacheable serves
  fromClient := ⟨rpc, env, fetches, rfl⟩

/-- A node of the chain, which refuses a range without blocks. -/
def LogChain.node (chain : LogChain) (request : GetLogsRequest) :
    GetLogsAnswer where
  rpcLogs :=
    if request.fromBlock ≤ request.toBlock then
      .ok (chain.between request.fromBlock.toNat
        (request.toBlock.toNat + 1))
    else
      .error (.invalidInput "invalid block range")
  elapsed := 0

/-- A client that has just started asks for one block at a time. -/
def LogChain.newClient (chain : LogChain) : CachedRpcEnv where
  smartGetLogs fromBlock toBlock :=
    let fetcher := SmartGetLogs.new [] []
    match fetcher.getPartialLogs
        (fun _ => chain.node (fetcher.request fromBlock toBlock 1)) 1
        fromBlock toBlock with
    | some ⟨_, _, .ok page⟩ => .ok page
    | _ => .error "get_partial_logs failed"
  readFails := false
  saveFails := false

theorem LogChain.newClient_fetches (chain : LogChain) :
    chain.newClient.Fetches := by
  intro fromBlock toBlock page fetched
  simp only [newClient] at fetched
  split at fetched
  · rename_i returns
    cases fetched
    exact ⟨_, _, _, _, .new [] [], returns, rfl⟩
  · cases fetched

theorem LogChain.newClient_serves (chain : LogChain) :
    chain.newClient.Serves chain := by
  intro fromBlock toBlock page order fetched
  let fetcher := SmartGetLogs.new [] []
  have one : 1 ≤ (1 : UInt64).toNat := Nat.le_refl 1
  have ends := fetcher.request_endsWithin one order
  simp only [newClient, SmartGetLogs.getPartialLogs, not_true_eq_false, order,
    ↓reduceIte, iterate, SmartGetLogs.getLogsTurn, node] at fetched
  by_cases inside : fromBlock ≤ (fetcher.request fromBlock toBlock 1).toBlock
  · have asked : (fetcher.request fromBlock toBlock 1).fromBlock ≤
        (fetcher.request fromBlock toBlock 1).toBlock := inside
    rw [if_pos asked] at fetched
    cases fetched
    exact ⟨inside, ends.le_to, rfl⟩
  · have asked : ¬(fetcher.request fromBlock toBlock 1).fromBlock ≤
        (fetcher.request fromBlock toBlock 1).toBlock := inside
    rw [if_neg asked] at fetched
    cases fetched

/-! ## An off-ramp with one execution -/

def offRampMachine (start : UInt64) :
    ContractEventStateMachine (DestOffRampState SmallBitSet)
      SimpleExecutionStateChangedFilter :=
  .new start [] .default ⟨executionStateChangedTopic⟩

/-- A call to the off-ramp's machine through a new client, while the stable tip
has this number. -/
def stableCall (tipNumber : UInt64) : StableCall where
  getPartialLogs := CachedRpc.new.answers (oneExecution 5).newClient
  chainStatus := .good (.single (numberedBlock tipNumber))

theorem stableCall_served (tipNumber : UInt64) :
    (stableCall tipNumber).Served (oneExecution 5) :=
  CachedRpc.answers_served (LogsDb.new_caches _) (oneExecution_cacheable 5)
    (oneExecution 5).newClient_serves (oneExecution 5).newClient_fetches _

/-- Blocks 3 to 6 are fetched one by one, while the stable tip moves on. -/
theorem exactly_once_replay_oneExecution :
    ((offRampMachine 3).runStable [stableCall 4, stableCall 4, stableCall 6,
          stableCall 6]).updateProgress = .nextStartBlockNumber 7 ∧
      ((offRampMachine 3).runStable [stableCall 4, stableCall 4, stableCall 6,
        stableCall 6]).ExactlyOnce (oneExecution 5)
          ⟨executionStateChangedTopic⟩ .default 3 := by
  refine ⟨by decide +kernel, ?_⟩
  apply ContractEventStateMachine.exactly_once_replay
  · exact oneExecution_decodes 5
  · intro call member
    simp only [List.mem_cons, List.not_mem_nil, or_false] at member
    rcases member with rfl | rfl | rfl | rfl
    · exact stableCall_served 4
    · exact stableCall_served 4
    · exact stableCall_served 6
    · exact stableCall_served 6

end RiskManagement
