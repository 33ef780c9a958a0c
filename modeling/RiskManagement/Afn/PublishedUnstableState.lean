import RiskManagement.Afn.ExactlyOnceReplay
import RiskManagement.Afn.UnstableWorker

/-!
# What the worker publishes

The stable pass ends past the stable tip, so the unstable pass only reads
blocks of the tail.  The published machine is the stable state extended by the
pages of that pass, each log checked against the tail.
-/

namespace RiskManagement

variable {S Filter Event : Type} [ContractEventFilter Filter Event]
  [State S Filter Event]

/-- The cached client answers, with logs of the block range of the request that
decode. -/
structure RangedPages (filter : Filter) (getPartialLogs : GetPartialLogs) :
    Prop where
  fromClient : getPartialLogs.FromClient
  logs_inRange : ∀ fromBlock toBlock cache page, fromBlock ≤ toBlock →
    getPartialLogs fromBlock toBlock cache = .ok page →
      ∀ log ∈ page.logs,
        fromBlock ≤ log.blockNumber ∧ log.blockNumber ≤ toBlock
  logs_decode : ∀ fromBlock toBlock cache page, fromBlock ≤ toBlock →
    getPartialLogs fromBlock toBlock cache = .ok page →
      ∀ log ∈ page.logs, ∃ event,
        ContractEventFilter.decodeLog filter log = .ok event

/-- A machine with the same fixed fields. -/
structure ContractEventStateMachine.SameConfig
    (left right : ContractEventStateMachine S Filter) : Prop where
  addresses : left.addresses = right.addresses
  contractEventFilter :
    left.contractEventFilter = right.contractEventFilter

theorem Tail.tip_number_eq_maxValue (tail : Tail)
    (isMax : tail.stableTip.number = Word64.maxValue) :
    tail.tip.number = Word64.maxValue := by
  have tip := tail.tip_number
  have positive : 0 < tail.blocks.length :=
    List.length_pos_iff.mpr tail.nonempty
  have bound := Word64.toNat_lt_size tail.tip.number
  rw [isMax, Word64.toNat_maxValue] at tip
  rw [← UInt64.toNat_inj, Word64.toNat_maxValue]
  omega

namespace ContractEventStateMachine

theorem SameConfig.refl (machine : ContractEventStateMachine S Filter) :
    machine.SameConfig machine :=
  ⟨rfl, rfl⟩

theorem SameConfig.symm {left right : ContractEventStateMachine S Filter}
    (same : left.SameConfig right) : right.SameConfig left :=
  ⟨same.addresses.symm, same.contractEventFilter.symm⟩

theorem SameConfig.trans
    {first second third : ContractEventStateMachine S Filter}
    (left : first.SameConfig second) (right : second.SameConfig third) :
    first.SameConfig third :=
  ⟨left.addresses.trans right.addresses,
    left.contractEventFilter.trans right.contractEventFilter⟩

/-- The machine after a page that ends before the last block. -/
def afterPage (self : ContractEventStateMachine S Filter)
    (page : PartialLogs) (state : S) : ContractEventStateMachine S Filter :=
  { self with
    state := state
    updateProgress := .nextStartBlockNumber (page.toBlock + 1) }

theorem afterPage_sameConfig (self : ContractEventStateMachine S Filter)
    (page : PartialLogs) (state : S) :
    (self.afterPage page state).SameConfig self :=
  ⟨rfl, rfl⟩

theorem afterPage_updateProgress
    (self : ContractEventStateMachine S Filter) (page : PartialLogs)
    (state : S) :
    (self.afterPage page state).updateProgress =
      .nextStartBlockNumber (page.toBlock + 1) := rfl

/-- All that a call can do with ranged pages, when an unstable call starts
inside the tail. -/
inductive RangedOutcome (self : ContractEventStateMachine S Filter)
    (getPartialLogs : GetPartialLogs) (chainStatus : ChainStatus)
    (finality : Finality) : ContractEventStateMachine S Filter ×
      Except MachineError ContractStateMachineUpdateResult → Prop where
  | failed {after : ContractEventStateMachine S Filter}
      {error : MachineError} :
      after.SameConfig self →
      (∀ blockNumber status, error ≠ .notInChainStatus blockNumber status) →
      RangedOutcome self getPartialLogs chainStatus finality
        (after, .error error)
  | upToDate {start : UInt64} {tail : Tail} :
      self.updateProgress = .nextStartBlockNumber start →
      chainStatus = .good tail →
      finality.maxEndBlockNumber tail < start →
      RangedOutcome self getPartialLogs chainStatus finality
        ({ self with timestamp := some tail.tip.timestamp }, .ok .complete)
  | last {start : UInt64} {tail : Tail} {page : PartialLogs} {state : S} :
      self.updateProgress = .nextStartBlockNumber start →
      chainStatus = .good tail →
      start ≤ finality.maxEndBlockNumber tail →
      getPartialLogs start (finality.maxEndBlockNumber tail)
        finality.usesCache = .ok page →
      replay self.contractEventFilter self.state page.logs = some state →
      (∀ log ∈ page.logs, Verified finality chainStatus log) →
      page.toBlock ≠ Word64.maxValue →
      page.toBlock = finality.maxEndBlockNumber tail →
      RangedOutcome self getPartialLogs chainStatus finality
        ({ self with
            state := state
            timestamp := some tail.tip.timestamp
            updateProgress := .nextStartBlockNumber (page.toBlock + 1) },
          .ok .complete)
  | more {start : UInt64} {tail : Tail} {page : PartialLogs} {state : S} :
      self.updateProgress = .nextStartBlockNumber start →
      chainStatus = .good tail →
      start ≤ finality.maxEndBlockNumber tail →
      getPartialLogs start (finality.maxEndBlockNumber tail)
        finality.usesCache = .ok page →
      replay self.contractEventFilter self.state page.logs = some state →
      (∀ log ∈ page.logs, Verified finality chainStatus log) →
      EndsWithin start (finality.maxEndBlockNumber tail) page.toBlock →
      page.toBlock < finality.maxEndBlockNumber tail →
      RangedOutcome self getPartialLogs chainStatus finality
        (self.afterPage page state, .ok (.partialUpTo page.toBlock))

/-- Where an unstable call starts: past the stable tip. -/
def StartsPastStableTip (self : ContractEventStateMachine S Filter)
    (chainStatus : ChainStatus) : Prop :=
  ∀ start tail, self.updateProgress = .nextStartBlockNumber start →
    chainStatus = .good tail → tail.stableTip.number ≤ start

theorem update_rangedOutcome {self : ContractEventStateMachine S Filter}
    {getPartialLogs : GetPartialLogs} {chainStatus : ChainStatus}
    {finality : Finality}
    (ranged : RangedPages self.contractEventFilter getPartialLogs)
    (inside : finality = .unstable → self.StartsPastStableTip chainStatus) :
    RangedOutcome self getPartialLogs chainStatus finality
      (self.update getPartialLogs chainStatus finality) := by
  have updates := self.update_updates getPartialLogs chainStatus finality
  generalize self.update getPartialLogs chainStatus finality = result
    at updates
  cases updates with
  | brokeDown _ =>
      refine .failed (.refl self) ?_
      intro blockNumber status
      simp
  | finalityViolated _ _ =>
      refine .failed ⟨rfl, rfl⟩ ?_
      intro blockNumber status
      simp
  | upToDate progress isGood above => exact .upToDate progress isGood above
  | notFetched _ _ _ _ =>
      refine .failed (.refl self) ?_
      intro blockNumber status
      simp
  | @page start tail page applied progress isGood order fetched applies =>
      cases applied with
      | ok state =>
          obtain ⟨replayed, verified⟩ := applies.of_ok
          have ends := ranged.fromClient.endsWithin fetched
          by_cases whole : page.toBlock = finality.maxEndBlockNumber tail
          · rw [self.finishPage_whole state whole]
            exact .last progress isGood order fetched replayed verified
              ends.ne_maxValue whole
          · rw [self.finishPage_partial state whole]
            exact .more progress isGood order fetched replayed verified ends
              (UInt64.lt_of_le_of_ne ends.le_to whole)
      | corrupting state error =>
          refine .failed ⟨rfl, rfl⟩ ?_
          intro blockNumber status
          rcases applies.of_corrupting with
            ⟨rejection, rfl⟩ | ⟨_, block, log, rfl⟩
          · simp
          · simp
      | exit state error =>
          obtain ⟨isUnstable, log, member, absent⟩ := applies.absent_of_exit
            (ranged.logs_decode _ _ _ _ order fetched)
          subst isUnstable
          subst isGood
          obtain ⟨lower, upper⟩ :=
            ranged.logs_inRange _ _ _ _ order fetched log member
          have past := inside rfl start tail progress rfl
          obtain ⟨block, found⟩ := Tail.blockByNumber_isSome
            (UInt64.le_iff_toNat_le.mp (UInt64.le_trans past lower))
            (UInt64.le_iff_toNat_le.mp upper)
          simp only [ChainStatus.blockByNumber] at absent
          rw [found] at absent
          cases absent

/-! ## The two loops -/

/-- How the stable loop of an iteration ends: past the stable tip, or with an
error that is not the bug branch.  It goes on for ever where it waits for the
largest block number, which no page ends at. -/
inductive StablePassEnd (self : ContractEventStateMachine S Filter)
    (chainStatus : ChainStatus) :
    ContractEventStateMachine S Filter × KeepUpdating → Prop where
  | failed {after : ContractEventStateMachine S Filter}
      {error : MachineError} :
      after.SameConfig self →
      (∀ blockNumber status, error ≠ .notInChainStatus blockNumber status) →
      StablePassEnd self chainStatus (after, .failed error)
  | goesOn {after : ContractEventStateMachine S Filter} {tail : Tail} :
      after.SameConfig self →
      chainStatus = .good tail →
      tail.stableTip.number = Word64.maxValue →
      StablePassEnd self chainStatus (after, .outOfFuel)
  | finished {after : ContractEventStateMachine S Filter} {tail : Tail}
      {next : UInt64} :
      after.SameConfig self →
      chainStatus = .good tail →
      after.updateProgress = .nextStartBlockNumber next →
      tail.stableTip.number < next →
      StablePassEnd self chainStatus (after, .finished)

/-- What is left to read before a block number. -/
def distanceTo (self : ContractEventStateMachine S Filter)
    (maxEndBlockNumber : UInt64) : Nat :=
  match self.updateProgress with
  | .corrupted => 0
  | .nextStartBlockNumber start =>
      maxEndBlockNumber.toNat + 1 - start.toNat

theorem distanceTo_lt (self : ContractEventStateMachine S Filter)
    (maxEndBlockNumber : UInt64) :
    self.distanceTo maxEndBlockNumber < 2 ^ 64 + 1 := by
  rw [distanceTo]
  have bound := Word64.toNat_lt_size maxEndBlockNumber
  cases self.updateProgress with
  | corrupted => simp
  | nextStartBlockNumber start =>
      simp only
      omega

/-- A page that ends before the last block leaves less to read, unless that is
the largest block number. -/
theorem distanceTo_page {self : ContractEventStateMachine S Filter}
    {start maxEndBlockNumber toBlock : UInt64}
    (progress : self.updateProgress = .nextStartBlockNumber start)
    (order : start ≤ maxEndBlockNumber)
    (ends : EndsWithin start maxEndBlockNumber toBlock)
    (before : toBlock < maxEndBlockNumber)
    (notMax : maxEndBlockNumber ≠ Word64.maxValue)
    {after : ContractEventStateMachine S Filter}
    (advanced : after.updateProgress =
      .nextStartBlockNumber (toBlock + 1)) :
    after.distanceTo maxEndBlockNumber <
      self.distanceTo maxEndBlockNumber := by
  have successor := Word64.toNat_add_one ends.ne_maxValue
  have startNotMax : start ≠ Word64.maxValue := by
    rintro rfl
    exact notMax (UInt64.le_antisymm (Word64.le_maxValue _) order)
  have forward := UInt64.le_iff_toNat_le.mp (ends.from_le startNotMax)
  rw [UInt64.lt_iff_toNat_lt] at before
  rw [distanceTo, distanceTo, progress, advanced]
  simp only [successor]
  omega

theorem StablePassEnd.mono {self middle : ContractEventStateMachine S Filter}
    {chainStatus : ChainStatus}
    {result : ContractEventStateMachine S Filter × KeepUpdating}
    (ended : StablePassEnd middle chainStatus result)
    (same : middle.SameConfig self) :
    StablePassEnd self chainStatus result := by
  cases ended with
  | failed sameMiddle notBug => exact .failed (sameMiddle.trans same) notBug
  | goesOn sameMiddle isGood isMax =>
      exact .goesOn (sameMiddle.trans same) isGood isMax
  | finished sameMiddle isGood progress past =>
      exact .finished (sameMiddle.trans same) isGood progress past

/-- The stable loop ends past the stable tip or with an error, or waits for the
largest block number. -/
theorem keepUpdating_stable {self : ContractEventStateMachine S Filter}
    {chainStatus : ChainStatus} {answers : Nat → GetPartialLogs}
    (ranged : ∀ iteration,
      RangedPages self.contractEventFilter (answers iteration))
    {fuel iteration : Nat}
    (enough : ∀ tail, chainStatus = .good tail →
      tail.stableTip.number ≠ Word64.maxValue →
        self.distanceTo tail.stableTip.number < fuel)
    (positive : chainStatus = .finalityViolated → 0 < fuel) :
    StablePassEnd self chainStatus
      (keepUpdatingUntilCompleteOrShutdownRequest (fun _ => false) answers
        chainStatus .stable fuel iteration self) := by
  induction fuel generalizing iteration self with
  | zero =>
      cases chainStatus with
      | finalityViolated => exact absurd (positive rfl) (Nat.lt_irrefl 0)
      | good tail =>
          apply StablePassEnd.goesOn (.refl self) rfl
          by_contra notMax
          exact absurd (enough tail rfl notMax) (Nat.not_lt_zero _)
  | succ fuel induction =>
      have outcome : RangedOutcome self (answers iteration) chainStatus
          .stable (self.update (answers iteration) chainStatus .stable) :=
        update_rangedOutcome (ranged iteration) (by simp)
      rw [keepUpdatingUntilCompleteOrShutdownRequest]
      simp only [Bool.false_eq_true, ↓reduceIte]
      generalize self.update (answers iteration) chainStatus .stable = result
        at outcome
      cases outcome with
      | failed same notBug => exact .failed same notBug
      | upToDate progress isGood above =>
          exact .finished ⟨rfl, rfl⟩ isGood progress above
      | @last start tail page state progress isGood order fetched replayed
          verified notMax whole =>
          refine .finished ⟨rfl, rfl⟩ isGood rfl ?_
          have successor := Word64.toNat_add_one notMax
          rw [UInt64.lt_iff_toNat_lt, successor, whole]
          exact Nat.lt_succ_self _
      | @more start tail page state progress isGood order fetched replayed
          verified ends before =>
          refine StablePassEnd.mono ?_ (self.afterPage_sameConfig page state)
          apply induction
          · exact ranged
          · intro other isOther notMax
            rw [isGood] at isOther
            cases isOther
            have less := distanceTo_page progress order ends before notMax
              (self.afterPage_updateProgress page state)
            have selfEnough := enough tail isGood notMax
            simp only [Finality.maxEndBlockNumber] at less
            omega
          · intro violated
            rw [isGood] at violated
            cases violated

/-- The pages of an unstable pass from `start` to the tip, end to end. -/
inductive FetchedUpToTip (answers : Nat → GetPartialLogs) (tail : Tail) :
    Nat → UInt64 → List EVMLog → Prop where
  | nothing {iteration : Nat} {start : UInt64} :
      tail.tip.number < start →
      FetchedUpToTip answers tail iteration start []
  | last {iteration : Nat} {start : UInt64} {page : PartialLogs} :
      start ≤ tail.tip.number →
      answers iteration start tail.tip.number false = .ok page →
      page.toBlock = tail.tip.number →
      FetchedUpToTip answers tail iteration start page.logs
  | more {iteration : Nat} {start : UInt64} {page : PartialLogs}
      {logs : List EVMLog} :
      start ≤ tail.tip.number →
      answers iteration start tail.tip.number false = .ok page →
      page.toBlock < tail.tip.number →
      FetchedUpToTip answers tail (iteration + 1) (page.toBlock + 1) logs →
      FetchedUpToTip answers tail iteration start (page.logs ++ logs)

/-- A log that the unstable pass may apply: of a block of the tail. -/
structure OnTail (tail : Tail) (start : UInt64) (log : EVMLog) : Prop where
  from_start : start ≤ log.blockNumber
  to_tip : log.blockNumber ≤ tail.tip.number
  hash_eq : ∃ block, tail.blockByNumber log.blockNumber = some block ∧
    block.hash = log.blockHash

/-- How the unstable loop of an iteration ends. -/
inductive UnstablePassEnd (self : ContractEventStateMachine S Filter)
    (answers : Nat → GetPartialLogs) (tail : Tail) (iteration : Nat)
    (start : UInt64) :
    ContractEventStateMachine S Filter × KeepUpdating → Prop where
  | failed {after : ContractEventStateMachine S Filter}
      {error : MachineError} :
      (∀ blockNumber status, error ≠ .notInChainStatus blockNumber status) →
      UnstablePassEnd self answers tail iteration start (after, .failed error)
  | goesOn {after : ContractEventStateMachine S Filter} :
      tail.tip.number = Word64.maxValue →
      UnstablePassEnd self answers tail iteration start (after, .outOfFuel)
  | finished {after : ContractEventStateMachine S Filter}
      {logs : List EVMLog} :
      after.SameConfig self →
      FetchedUpToTip answers tail iteration start logs →
      replay self.contractEventFilter self.state logs = some after.state →
      (∀ log ∈ logs, OnTail tail start log) →
      after.timestamp = some tail.tip.timestamp →
      UnstablePassEnd self answers tail iteration start (after, .finished)

theorem onTail_of_page {filter : Filter} {getPartialLogs : GetPartialLogs}
    (ranged : RangedPages filter getPartialLogs) {tail : Tail}
    {start : UInt64} {page : PartialLogs} (order : start ≤ tail.tip.number)
    (fetched : getPartialLogs start tail.tip.number false = .ok page)
    (verified : ∀ log ∈ page.logs, Verified .unstable (.good tail) log) :
    ∀ log ∈ page.logs, OnTail tail start log := by
  intro log member
  obtain ⟨lower, upper⟩ :=
    ranged.logs_inRange _ _ _ _ order fetched log member
  exact ⟨lower, upper, verified log member rfl⟩

theorem UnstablePassEnd.afterPage
    {self : ContractEventStateMachine S Filter}
    {answers : Nat → GetPartialLogs} {tail : Tail} {iteration : Nat}
    {start : UInt64} {page : PartialLogs} {state : S}
    {result : ContractEventStateMachine S Filter × KeepUpdating}
    (ranged : RangedPages self.contractEventFilter (answers iteration))
    (order : start ≤ tail.tip.number)
    (fetched : answers iteration start tail.tip.number false = .ok page)
    (verified : ∀ log ∈ page.logs, Verified .unstable (.good tail) log)
    (before : page.toBlock < tail.tip.number)
    (later : start ≤ page.toBlock + 1)
    (replayed : replay self.contractEventFilter self.state page.logs =
      some state)
    (rest : UnstablePassEnd (self.afterPage page state) answers tail
      (iteration + 1) (page.toBlock + 1) result) :
    UnstablePassEnd self answers tail iteration start result := by
  cases rest with
  | failed notBug => exact .failed notBug
  | goesOn isMax => exact .goesOn isMax
  | @finished after logs same fetchedRest replayedRest onTail timestamp =>
      refine .finished (same.trans (self.afterPage_sameConfig page state))
        (.more order fetched before fetchedRest) ?_ ?_ timestamp
      · rw [replay_append, replayed]
        exact replayedRest
      · intro log member
        rcases List.mem_append.mp member with inPage | afterwards
        · exact onTail_of_page ranged order fetched verified log inPage
        · have laterOn := onTail log afterwards
          exact ⟨UInt64.le_trans later laterOn.from_start, laterOn.to_tip,
            laterOn.hash_eq⟩

/-- The unstable loop extends the state by its pages up to the tip. -/
theorem keepUpdating_unstable {self : ContractEventStateMachine S Filter}
    {tail : Tail} {answers : Nat → GetPartialLogs}
    (ranged : ∀ iteration,
      RangedPages self.contractEventFilter (answers iteration))
    {fuel iteration : Nat} {start : UInt64}
    (progress : self.updateProgress = .nextStartBlockNumber start)
    (past : tail.stableTip.number ≤ start)
    (enough : tail.tip.number ≠ Word64.maxValue →
      self.distanceTo tail.tip.number < fuel) :
    UnstablePassEnd self answers tail iteration start
      (keepUpdatingUntilCompleteOrShutdownRequest (fun _ => false) answers
        (.good tail) .unstable fuel iteration self) := by
  induction fuel generalizing iteration self start with
  | zero =>
      apply UnstablePassEnd.goesOn
      by_contra notMax
      exact absurd (enough notMax) (Nat.not_lt_zero _)
  | succ fuel induction =>
      have outcome : RangedOutcome self (answers iteration) (.good tail)
          .unstable
          (self.update (answers iteration) (.good tail) .unstable) := by
        apply update_rangedOutcome (ranged iteration)
        intro _ other otherTail otherProgress isOther
        rw [progress] at otherProgress
        cases otherProgress
        cases isOther
        exact past
      rw [keepUpdatingUntilCompleteOrShutdownRequest]
      simp only [Bool.false_eq_true, ↓reduceIte]
      generalize self.update (answers iteration) (.good tail) .unstable =
        result at outcome
      cases outcome with
      | failed _ notBug => exact .failed notBug
      | upToDate sameProgress isGood above =>
          rw [progress] at sameProgress
          cases sameProgress
          cases isGood
          exact .finished ⟨rfl, rfl⟩ (.nothing above) rfl (by simp) rfl
      | @last _ _ page state sameProgress isGood order fetched replayed
          verified _ whole =>
          rw [progress] at sameProgress
          cases sameProgress
          cases isGood
          exact .finished ⟨rfl, rfl⟩ (.last order fetched whole) replayed
            (onTail_of_page (ranged iteration) order fetched verified) rfl
      | @more _ _ page state sameProgress isGood order fetched replayed
          verified ends before =>
          rw [progress] at sameProgress
          cases sameProgress
          cases isGood
          have later := ends.from_le_next
          refine UnstablePassEnd.afterPage (ranged iteration) order fetched
            verified before later replayed ?_
          apply induction
          · exact ranged
          · exact self.afterPage_updateProgress page state
          · exact UInt64.le_trans past later
          · intro notMax
            have less := distanceTo_page progress order ends before notMax
              (self.afterPage_updateProgress page state)
            have selfEnough := enough notMax
            simp only [Finality.maxEndBlockNumber] at less
            omega

end ContractEventStateMachine

/-! ## One iteration and runs of them -/

/-- An iteration whose pages are ranged. -/
structure WorkerIteration.Answered (iteration : WorkerIteration)
    (filter : Filter) : Prop where
  stable_ranged : ∀ index,
    RangedPages filter (iteration.stableAnswers index)
  unstable_ranged : ∀ index,
    RangedPages filter (iteration.unstableAnswers index)

namespace UnstableContractEventStateMachineWorker

open ContractEventStateMachine

/-- Both machines still have the fixed fields they were spawned with. -/
structure Paired (worker : UnstableContractEventStateMachineWorker S Filter)
    (filter : Filter) : Prop where
  same : worker.unstableCesm.SameConfig worker.stableCesm
  filter_eq : worker.stableCesm.contractEventFilter = filter

theorem spawn_paired (cesm : ContractEventStateMachine S Filter) :
    (spawn cesm).Paired cesm.contractEventFilter :=
  ⟨.refl cesm, rfl⟩

/-- The unstable machine of a worker is its stable state extended by the
fetched logs, which are all on the tail. -/
structure Published (worker : UnstableContractEventStateMachineWorker S Filter)
    (answers : Nat → GetPartialLogs) (tail : Tail) (next : UInt64)
    (logs : List EVMLog) : Prop where
  stable_progress :
    worker.stableCesm.updateProgress = .nextStartBlockNumber next
  fetched : FetchedUpToTip answers tail 0 next logs
  replayed : replay worker.stableCesm.contractEventFilter
    worker.stableCesm.state logs = some worker.unstableCesm.state
  onTail : ∀ log ∈ logs, OnTail tail next log
  timestamp : worker.unstableCesm.timestamp = some tail.tip.timestamp

/-- A pass of an iteration with this status may wait for the largest block
number. -/
def AwaitsMax (chainStatus : Option ChainStatus) : Prop :=
  ∃ tail, chainStatus = some (.good tail) ∧
    tail.tip.number = Word64.maxValue

/-- All that one iteration can do. -/
inductive IterationEnd
    (worker : UnstableContractEventStateMachineWorker S Filter)
    (iteration : WorkerIteration) :
    UnstableContractEventStateMachineWorker S Filter ×
      Except WorkerError Unit → Prop where
  | idle :
      iteration.chainStatus = none →
      IterationEnd worker iteration (worker, .ok ())
  | stableFailed {stableCesm : ContractEventStateMachine S Filter}
      {error : MachineError} :
      stableCesm.SameConfig worker.stableCesm →
      (∀ blockNumber status, error ≠ .notInChainStatus blockNumber status) →
      IterationEnd worker iteration
        ({ worker with stableCesm := stableCesm },
          .error (.stableUpdate error))
  | unstableFailed {stableCesm : ContractEventStateMachine S Filter}
      {error : MachineError} :
      stableCesm.SameConfig worker.stableCesm →
      (∀ blockNumber status, error ≠ .notInChainStatus blockNumber status) →
      IterationEnd worker iteration
        ({ worker with stableCesm := stableCesm },
          .error (.unstableUpdate error))
  | goesOn {stableCesm : ContractEventStateMachine S Filter} :
      stableCesm.SameConfig worker.stableCesm →
      AwaitsMax iteration.chainStatus →
      IterationEnd worker iteration
        ({ worker with stableCesm := stableCesm }, .error .outOfFuel)
  | published {after : UnstableContractEventStateMachineWorker S Filter}
      {tail : Tail} {next : UInt64} {logs : List EVMLog} :
      iteration.chainStatus = some (.good tail) →
      after.stableCesm.SameConfig worker.stableCesm →
      after.unstableCesm.SameConfig after.stableCesm →
      after.Published iteration.unstableAnswers tail next logs →
      IterationEnd worker iteration (after, .ok ())

/-- The unstable pass, on a clone of the stable machine that the stable pass
has left past the stable tip. -/
theorem iterateUnstable_end
    {worker : UnstableContractEventStateMachineWorker S Filter}
    {filter : Filter} (paired : worker.Paired filter)
    {iteration : WorkerIteration} (answered : iteration.Answered filter)
    {fuel : Nat} (enough : 2 ^ 64 < fuel) {tail : Tail} {next : UInt64}
    (chainStatus : iteration.chainStatus = some (.good tail))
    {stableCesm : ContractEventStateMachine S Filter}
    (same : stableCesm.SameConfig worker.stableCesm)
    (progress : stableCesm.updateProgress = .nextStartBlockNumber next)
    (past : tail.stableTip.number < next) :
    IterationEnd worker iteration
      (iterateUnstable { worker with stableCesm := stableCesm } fuel
        (.good tail) iteration.unstableAnswers) := by
  have unstableEnd : UnstablePassEnd stableCesm iteration.unstableAnswers tail
      0 next (keepUpdatingUntilCompleteOrShutdownRequest (fun _ => false)
        iteration.unstableAnswers (.good tail) .unstable fuel 0
        stableCesm) := by
    apply keepUpdating_unstable
    · rw [same.contractEventFilter, paired.filter_eq]
      exact answered.unstable_ranged
    · exact progress
    · exact UInt64.le_of_lt past
    · intro _
      have bound := stableCesm.distanceTo_lt tail.tip.number
      omega
  simp only [iterateUnstable]
  generalize keepUpdatingUntilCompleteOrShutdownRequest (fun _ => false)
    iteration.unstableAnswers (.good tail) .unstable fuel 0 stableCesm =
      unstableResult at unstableEnd
  cases unstableEnd with
  | failed notBug => exact .unstableFailed same notBug
  | goesOn isMax => exact .goesOn same ⟨tail, chainStatus, isMax⟩
  | @finished clone logs cloneSame fetched replayed onTail timestamp =>
      have addresses : clone.addresses = worker.unstableCesm.addresses := by
        rw [cloneSame.addresses, same.addresses, paired.same.addresses]
      simp only [publish, forkFrom, addresses, ne_eq, not_true_eq_false,
        ↓reduceIte]
      refine .published chainStatus same ?_
        ⟨progress, fetched, replayed, onTail, timestamp⟩
      constructor
      · exact addresses.symm.trans cloneSame.addresses
      · exact paired.same.contractEventFilter.trans
          same.contractEventFilter.symm

theorem iterate_end {worker : UnstableContractEventStateMachineWorker S Filter}
    {filter : Filter} (paired : worker.Paired filter)
    {iteration : WorkerIteration} (answered : iteration.Answered filter)
    {fuel : Nat} (enough : 2 ^ 64 < fuel) :
    IterationEnd worker iteration (worker.iterate fuel iteration) := by
  rw [iterate]
  cases chainStatus : iteration.chainStatus with
  | none => exact .idle chainStatus
  | some status =>
      have stableEnd : StablePassEnd worker.stableCesm status
          (keepUpdatingUntilCompleteOrShutdownRequest (fun _ => false)
            iteration.stableAnswers status .stable fuel 0
            worker.stableCesm) := by
        apply keepUpdating_stable
        · rw [paired.filter_eq]
          exact answered.stable_ranged
        · intro tail _ _
          have bound := worker.stableCesm.distanceTo_lt tail.stableTip.number
          omega
        · intro _
          omega
      simp only
      generalize keepUpdatingUntilCompleteOrShutdownRequest (fun _ => false)
        iteration.stableAnswers status .stable fuel 0 worker.stableCesm =
          stableResult at stableEnd
      cases stableEnd with
      | failed same notBug => exact .stableFailed same notBug
      | @goesOn after tail same isGood isMax =>
          refine .goesOn same ⟨tail, ?_, ?_⟩
          · rw [chainStatus, isGood]
          · exact tail.tip_number_eq_maxValue isMax
      | finished same isGood progress past =>
          subst isGood
          exact iterateUnstable_end paired answered enough chainStatus same
            progress past

/-- The stable machine may move on while the unstable one stays. -/
theorem Paired.withStable
    {worker : UnstableContractEventStateMachineWorker S Filter}
    {filter : Filter} (paired : worker.Paired filter)
    {stableCesm : ContractEventStateMachine S Filter}
    (same : stableCesm.SameConfig worker.stableCesm) :
    Paired { worker with stableCesm := stableCesm } filter :=
  ⟨paired.same.trans same.symm,
    same.contractEventFilter.trans paired.filter_eq⟩

theorem IterationEnd.paired
    {worker : UnstableContractEventStateMachineWorker S Filter}
    {filter : Filter} (paired : worker.Paired filter)
    {iteration : WorkerIteration}
    {result : UnstableContractEventStateMachineWorker S Filter ×
      Except WorkerError Unit}
    (ended : IterationEnd worker iteration result) :
    result.1.Paired filter := by
  cases ended with
  | idle _ => exact paired
  | stableFailed same _ => exact paired.withStable same
  | unstableFailed same _ => exact paired.withStable same
  | goesOn same _ => exact paired.withStable same
  | published _ same unstableSame _ =>
      constructor
      · exact unstableSame
      · exact same.contractEventFilter.trans paired.filter_eq

theorem run_paired {worker : UnstableContractEventStateMachineWorker S Filter}
    {filter : Filter} (paired : worker.Paired filter) {fuel : Nat}
    (enough : 2 ^ 64 < fuel) {iterations : List WorkerIteration}
    (answered : ∀ iteration ∈ iterations, iteration.Answered filter) :
    (worker.run fuel iterations).Paired filter := by
  induction iterations generalizing worker with
  | nil => exact paired
  | cons iteration iterations induction =>
      have ended := iterate_end paired
        (answered iteration List.mem_cons_self) enough
      apply induction (ended.paired paired)
      intro later member
      exact answered later (List.mem_cons_of_mem iteration member)

/-- What holds of one more iteration of the worker. -/
structure IterationSound
    (worker : UnstableContractEventStateMachineWorker S Filter)
    (fuel : Nat) (iteration : WorkerIteration) : Prop where
  ends : ¬AwaitsMax iteration.chainStatus →
    (worker.iterate fuel iteration).2 ≠ .error .outOfFuel
  fork_succeeds : ∀ detail,
    (worker.iterate fuel iteration).2 ≠ .error (.forkUnwrap detail)
  bug_branch_dead : ∀ blockNumber status,
    (worker.iterate fuel iteration).2 ≠
        .error (.stableUpdate (.notInChainStatus blockNumber status)) ∧
      (worker.iterate fuel iteration).2 ≠
        .error (.unstableUpdate (.notInChainStatus blockNumber status))
  failure_unpublished : ∀ error,
    (worker.iterate fuel iteration).2 = .error error →
      (worker.iterate fuel iteration).1.unstableCesm = worker.unstableCesm
  success_published : ∀ chainStatus,
    iteration.chainStatus = some chainStatus →
    (worker.iterate fuel iteration).2 = .ok () →
      ∃ tail next logs, chainStatus = .good tail ∧
        (worker.iterate fuel iteration).1.Published
          iteration.unstableAnswers tail next logs

/-- Every iteration of a spawned worker publishes the extended stable state or
nothing. -/
theorem published_unstable_state
    (cesm : ContractEventStateMachine S Filter) {fuel : Nat}
    (enough : 2 ^ 64 < fuel) {iterations : List WorkerIteration}
    (answered : ∀ iteration ∈ iterations,
      iteration.Answered cesm.contractEventFilter)
    {next : WorkerIteration}
    (nextAnswered : next.Answered cesm.contractEventFilter) :
    ((spawn cesm).run fuel iterations).IterationSound fuel next := by
  have paired := run_paired (spawn_paired cesm) enough answered
  have ended := iterate_end paired nextAnswered enough
  generalize (spawn cesm).run fuel iterations = worker at ended paired
  constructor
  · intro awaitsNot
    generalize worker.iterate fuel next = result at ended
    cases ended with
    | idle _ => simp
    | stableFailed _ _ => simp
    | unstableFailed _ _ => simp
    | goesOn _ awaits => exact absurd awaits awaitsNot
    | published _ _ _ _ => simp
  · intro detail
    generalize worker.iterate fuel next = result at ended
    cases ended <;> simp
  · intro blockNumber status
    generalize worker.iterate fuel next = result at ended
    cases ended with
    | idle _ => simp
    | stableFailed _ notBug => simp [notBug blockNumber status]
    | unstableFailed _ notBug => simp [notBug blockNumber status]
    | goesOn _ _ => simp
    | published _ _ _ _ => simp
  · intro error failure
    generalize worker.iterate fuel next = result at ended failure
    cases ended with
    | idle _ => cases failure
    | stableFailed _ _ => rfl
    | unstableFailed _ _ => rfl
    | goesOn _ _ => rfl
    | published _ _ _ _ => cases failure
  · intro chainStatus isSome success
    generalize worker.iterate fuel next = result at ended success
    cases ended with
    | idle isNone =>
        rw [isSome] at isNone
        cases isNone
    | stableFailed _ _ => cases success
    | unstableFailed _ _ => cases success
    | goesOn _ _ => cases success
    | @published after tail start logs isGood _ _ published =>
        rw [isSome] at isGood
        cases isGood
        exact ⟨tail, start, logs, rfl, published⟩

end UnstableContractEventStateMachineWorker

/-- A client's pages of a chain of decodable logs are ranged. -/
theorem StableCall.Served.rangedPages {call : StableCall} {chain : LogChain}
    (served : call.Served chain) {filter : Filter}
    (decodes : ∀ log ∈ chain.logs, ∃ event,
      ContractEventFilter.decodeLog filter log = .ok event) :
    RangedPages filter call.getPartialLogs := by
  refine ⟨served.fromClient, ?_, ?_⟩
  · intro fromBlock toBlock cache page order fetched log member
    have notPast := served.servedBy.le_to _ _ _ _ order fetched
    rw [served.servedBy.logs_eq _ _ _ _ order fetched] at member
    obtain ⟨_, lower, upper⟩ := LogChain.mem_between.mp member
    rw [UInt64.le_iff_toNat_le] at notPast ⊢
    rw [UInt64.le_iff_toNat_le]
    rw [EVMLog.block] at lower upper
    omega
  · intro fromBlock toBlock cache page order fetched log member
    rw [served.servedBy.logs_eq _ _ _ _ order fetched] at member
    exact decodes log (LogChain.mem_between.mp member).1

/-! ## Iterations of an off-ramp worker -/

/-- Blocks 4 and 5, then blocks 5 and 6. -/
def firstTail : Tail where
  blocks := [numberedBlock 4, numberedBlock 5]
  nonempty := List.cons_ne_nil _ _
  linked := (@checkLinks_none_eq_ok_iff [] _).mp rfl

def secondTail : Tail where
  blocks := [numberedBlock 5, numberedBlock 6]
  nonempty := List.cons_ne_nil _ _
  linked := (@checkLinks_none_eq_ok_iff [] _).mp rfl

/-- An iteration of the off-ramp's worker through a new client. -/
def oneExecutionIteration (tail : Tail) : WorkerIteration where
  chainStatus := some (.good tail)
  stableAnswers _ := CachedRpc.new.answers (oneExecution 5).newClient
  unstableAnswers _ := CachedRpc.new.answers (oneExecution 5).newClient

theorem oneExecutionIteration_answered (tail : Tail) :
    (oneExecutionIteration tail).Answered
      (SimpleExecutionStateChangedFilter.mk executionStateChangedTopic) := by
  have ranged := (stableCall_served 0).rangedPages (oneExecution_decodes 5)
  exact ⟨fun _ => ranged, fun _ => ranged⟩

def afterFirstTail : UnstableContractEventStateMachineWorker
    (DestOffRampState SmallBitSet) SimpleExecutionStateChangedFilter :=
  (UnstableContractEventStateMachineWorker.spawn (offRampMachine 3)).run
    (2 ^ 64 + 1) [oneExecutionIteration firstTail]

/-- Block 5 is first read as an unstable block, which is published, and then as
a stable one. -/
theorem published_unstable_state_oneExecution :
    afterFirstTail.stableCesm.state.maxSequenceNumber = none ∧
      afterFirstTail.unstableCesm.state.maxSequenceNumber = some 1 ∧
      afterFirstTail.IterationSound (2 ^ 64 + 1)
        (oneExecutionIteration secondTail) := by
  refine ⟨by decide +kernel, by decide +kernel, ?_⟩
  apply
    UnstableContractEventStateMachineWorker.published_unstable_state
      (offRampMachine 3)
  · exact Nat.lt_succ_self _
  · intro iteration member
    rw [List.mem_singleton.mp member]
    exact oneExecutionIteration_answered firstTail
  · exact oneExecutionIteration_answered secondTail

end RiskManagement
