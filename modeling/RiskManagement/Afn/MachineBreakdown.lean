import RiskManagement.Afn.DestOffRampState
import RiskManagement.Afn.EventFilters
import RiskManagement.Afn.StateInvariant

/-!
# What breaks a machine down

A machine whose progress is corrupted never works again.  On the destination
of a lane a finality violation is the only thing that does this to the stable
machine, and nothing does it to the published unstable one.  The off-ramp's
machine needs a bit set with room for the sequence numbers that are served.
-/

namespace RiskManagement

section Machines

variable {S Filter Event : Type} [ContractEventFilter Filter Event]
  [State S Filter Event]

/-- No event that the filter decodes from a served log is rejected. -/
def AcceptsDecoded (S : Type) {Filter Event : Type}
    [ContractEventFilter Filter Event] [State S Filter Event]
    (filter : Filter) (Served : EVMLog → Prop) : Prop :=
  ∀ (state : S) (log : EVMLog) (event : Event), Served log →
    ContractEventFilter.decodeLog filter log = .ok event →
      ∃ next, State.updateWithEvent state log.blockNumber log.blockHash
        log.address filter event = (next, .ok ())

variable {filter : Filter} {finality : Finality} {chainStatus : ChainStatus}
  {Served : EVMLog → Prop}

/-- On the stable machine nothing is compared with the tail either. -/
theorem Applies.not_corrupting (accepts : AcceptsDecoded S filter Served)
    {state : S} {logs : List EVMLog} {applied : Applied S}
    (served : ∀ log ∈ logs, Served log)
    (applies : Applies filter .stable chainStatus state logs applied) :
    ∀ last error, applied ≠ .corrupting last error := by
  induction applies with
  | done => simp
  | next _ _ _ induction =>
      exact induction fun log member =>
        served log (List.mem_cons_of_mem _ member)
  | missing isUnstable _ => cases isUnstable
  | mismatch isUnstable _ _ => cases isUnstable
  | undecodable _ _ => simp
  | @rejected state _ log _ event error _ decoded updated =>
      obtain ⟨next, accepted⟩ :=
        accepts state log event (served log List.mem_cons_self) decoded
      rw [updated] at accepted
      cases accepted

namespace ContractEventStateMachine

variable {machine : ContractEventStateMachine S Filter}

/-- A machine that will not work again. -/
def BrokenDown (machine : ContractEventStateMachine S Filter) : Prop :=
  machine.updateProgress = .corrupted

/-- A call of `update` on the stable machine, against a good chain status. -/
theorem update_unbroken (sound : ¬machine.BrokenDown)
    (accepts : AcceptsDecoded S machine.contractEventFilter Served)
    {getPartialLogs : GetPartialLogs} (serves : getPartialLogs.Serves Served)
    (tail : Tail) :
    ¬(machine.update getPartialLogs (.good tail) .stable).1.BrokenDown := by
  have updates := machine.update_updates getPartialLogs (.good tail) .stable
  generalize machine.update getPartialLogs (.good tail) .stable = result
    at updates
  cases updates with
  | brokeDown broken => exact absurd broken sound
  | finalityViolated _ violated => cases violated
  | upToDate _ _ _ => exact sound
  | notFetched _ _ _ _ => exact sound
  | @page _ tail partialLogs applied _ _ _ fetched applies =>
      have notCorrupting :=
        applies.not_corrupting accepts (serves _ _ _ _ fetched)
      cases applied with
      | exit state error => exact sound
      | corrupting state error => exact absurd rfl (notCorrupting state error)
      | ok state =>
          unfold ContractEventStateMachine.finishPage
          simp only
          split
          · simp [BrokenDown]
          · simp [BrokenDown]

/-- A call of `update` that succeeds leaves the machine working. -/
theorem update_unbroken_of_ok {getPartialLogs : GetPartialLogs}
    {next : ContractEventStateMachine S Filter}
    {progress : ContractStateMachineUpdateResult}
    (updated : machine.update getPartialLogs chainStatus finality =
      (next, .ok progress)) : ¬next.BrokenDown := by
  have updates := machine.update_updates getPartialLogs chainStatus finality
  rw [updated] at updates
  generalize isResult : (next, Except.ok progress) = result at updates
  cases updates with
  | brokeDown _ => cases isResult
  | finalityViolated _ _ => cases isResult
  | upToDate started _ _ =>
      cases isResult
      simp [BrokenDown, started]
  | notFetched _ _ _ _ => cases isResult
  | @page _ tail partialLogs applied _ _ _ _ _ =>
      cases applied with
      | exit state error => cases isResult
      | corrupting state error => cases isResult
      | ok state =>
          unfold ContractEventStateMachine.finishPage at isResult
          simp only at isResult
          split at isResult
          · cases isResult
            simp [BrokenDown]
          · cases isResult
            simp [BrokenDown]

theorem update_contractEventFilter (getPartialLogs : GetPartialLogs)
    (chainStatus : ChainStatus) (finality : Finality) :
    (machine.update getPartialLogs chainStatus finality).1.contractEventFilter =
      machine.contractEventFilter := by
  have satisfies : machine.Satisfies machine.contractEventFilter
      (fun _ => True) := ⟨rfl, trivial⟩
  have kept : KeptByEvents machine.contractEventFilter (fun _ => True)
      (fun _ : S => True) := fun _ _ _ _ _ _ => trivial
  exact (satisfies.update kept (fun _ _ _ _ _ _ _ => trivial) chainStatus
    finality).sameFilter

end ContractEventStateMachine

open ContractEventStateMachine

section Passes

variable {machine : ContractEventStateMachine S Filter} {isDone : Nat → Bool}
  {answers : Nat → GetPartialLogs} {fuel pass : Nat}

theorem keepUpdating_unbroken (sound : ¬machine.BrokenDown)
    (accepts : AcceptsDecoded S machine.contractEventFilter Served)
    (serves : ∀ pass, (answers pass).Serves Served) {tail : Tail} :
    ¬(keepUpdatingUntilCompleteOrShutdownRequest isDone answers (.good tail)
      .stable fuel pass machine).1.BrokenDown := by
  induction fuel generalizing pass machine with
  | zero => exact sound
  | succ fuel induction =>
      rw [keepUpdatingUntilCompleteOrShutdownRequest]
      have updated := update_unbroken sound accepts (serves pass) tail
      have sameFilter := machine.update_contractEventFilter (answers pass)
        (.good tail) .stable
      generalize machine.update (answers pass) (.good tail) .stable = result
        at updated sameFilter
      obtain ⟨next, outcome⟩ := result
      split
      · exact sound
      · cases outcome with
        | error error => exact updated
        | ok progress =>
            cases progress with
            | complete => exact updated
            | partialUpTo _ =>
                apply induction updated
                rw [sameFilter]
                exact accepts

theorem keepUpdating_unbroken_of_finished (sound : ¬machine.BrokenDown)
    {last : ContractEventStateMachine S Filter}
    (finished : keepUpdatingUntilCompleteOrShutdownRequest isDone answers
      chainStatus finality fuel pass machine = (last, .finished)) :
    ¬last.BrokenDown := by
  induction fuel generalizing pass machine with
  | zero => cases finished
  | succ fuel induction =>
      rw [keepUpdatingUntilCompleteOrShutdownRequest] at finished
      split at finished
      · cases finished
        exact sound
      · split at finished
        · cases finished
        · rename_i updated
          cases finished
          exact update_unbroken_of_ok updated
        · rename_i updated
          exact induction (update_unbroken_of_ok updated) finished

theorem keepUpdating_brokenDown (broken : machine.BrokenDown)
    (chainStatus : ChainStatus) :
    keepUpdatingUntilCompleteOrShutdownRequest (fun _ => false) answers
        chainStatus finality (fuel + 1) pass machine =
      (machine, .failed .brokeDown) := by
  rw [keepUpdatingUntilCompleteOrShutdownRequest,
    update_corrupted broken (answers pass) chainStatus finality]
  rfl

theorem keepUpdating_finalityViolated
    (machine : ContractEventStateMachine S Filter)
    (answers : Nat → GetPartialLogs) (finality : Finality)
    (fuel pass : Nat) :
    ∃ broken : ContractEventStateMachine S Filter, ∃ error,
      keepUpdatingUntilCompleteOrShutdownRequest (fun _ => false) answers
          .finalityViolated finality (fuel + 1) pass machine =
        (broken, .failed error) ∧ broken.BrokenDown := by
  rw [keepUpdatingUntilCompleteOrShutdownRequest]
  cases progress : machine.updateProgress with
  | corrupted =>
      rw [update_corrupted progress (answers pass) .finalityViolated finality]
      exact ⟨machine, .brokeDown, rfl, progress⟩
  | nextStartBlockNumber start =>
      refine ⟨{ machine with updateProgress := .corrupted }, .finalityViolated,
        ?_, rfl⟩
      rw [ContractEventStateMachine.update, progress]
      rfl

end Passes

namespace UnstableContractEventStateMachineWorker

variable {worker : UnstableContractEventStateMachineWorker S Filter}
  {iteration : WorkerIteration}

/-- Publishing takes the progress of the new machine, or leaves the old. -/
theorem publish_unbroken
    (worker : UnstableContractEventStateMachineWorker S Filter)
    (sound : ¬worker.unstableCesm.BrokenDown)
    {newUnstableCesm : ContractEventStateMachine S Filter}
    (fresh : ¬newUnstableCesm.BrokenDown) :
    ¬(worker.publish newUnstableCesm).1.unstableCesm.BrokenDown := by
  unfold UnstableContractEventStateMachineWorker.publish
  rw [ContractEventStateMachine.forkFrom]
  split
  · exact sound
  · rename_i published forked
    split at forked
    · cases forked
    · cases forked
      exact fresh

theorem publish_stableCesm
    (newUnstableCesm : ContractEventStateMachine S Filter) :
    (worker.publish newUnstableCesm).1.stableCesm = worker.stableCesm := by
  unfold UnstableContractEventStateMachineWorker.publish
  split
  · rfl
  · rfl

/-- An iteration leaves the stable machine as its first pass does. -/
theorem iterate_stableCesm {chainStatus : ChainStatus}
    (latest : iteration.chainStatus = some chainStatus) (fuel : Nat) :
    (worker.iterate fuel iteration).1.stableCesm =
      (keepUpdatingUntilCompleteOrShutdownRequest (fun _ => false)
        iteration.stableAnswers chainStatus .stable fuel 0
        worker.stableCesm).1 := by
  unfold UnstableContractEventStateMachineWorker.iterate
  simp only [latest]
  generalize keepUpdatingUntilCompleteOrShutdownRequest (fun _ => false)
    iteration.stableAnswers chainStatus .stable fuel 0 worker.stableCesm =
      stablePassed
  obtain ⟨stableCesm, ended⟩ := stablePassed
  cases ended with
  | outOfFuel => rfl
  | failed error => rfl
  | finished =>
      simp only [iterateUnstable]
      split
      · rfl
      · rfl
      · exact publish_stableCesm _

theorem iterate_stableCesm_of_none (latest : iteration.chainStatus = none)
    (fuel : Nat) :
    (worker.iterate fuel iteration).1.stableCesm = worker.stableCesm := by
  unfold UnstableContractEventStateMachineWorker.iterate
  simp only [latest]

theorem iterate_contractEventFilter (worker :
      UnstableContractEventStateMachineWorker S Filter) (fuel : Nat)
    (iteration : WorkerIteration) :
    (worker.iterate fuel iteration).1.stableCesm.contractEventFilter =
      worker.stableCesm.contractEventFilter := by
  cases latest : iteration.chainStatus with
  | none => rw [iterate_stableCesm_of_none latest]
  | some chainStatus =>
      rw [iterate_stableCesm latest]
      have satisfies : worker.stableCesm.Satisfies
          worker.stableCesm.contractEventFilter (fun _ => True) :=
        ⟨rfl, trivial⟩
      have kept : KeptByEvents worker.stableCesm.contractEventFilter
          (fun _ => True) (fun _ : S => True) := fun _ _ _ _ _ _ => trivial
      exact (satisfies.keepUpdating kept (fun _ => false)
        (fun _ _ _ _ _ _ _ _ => trivial) chainStatus .stable fuel
        0).sameFilter

/-- The stable machine breaks down in an iteration that finds a violation, and
in no other. -/
theorem iterate_brokenDown_iff
    (accepts : AcceptsDecoded S worker.stableCesm.contractEventFilter Served)
    (serves : iteration.Serves Served) (fuel : Nat) :
    (worker.iterate (fuel + 1) iteration).1.stableCesm.BrokenDown ↔
      worker.stableCesm.BrokenDown ∨
        iteration.chainStatus = some .finalityViolated := by
  cases latest : iteration.chainStatus with
  | none => simp [iterate_stableCesm_of_none latest]
  | some chainStatus =>
      rw [iterate_stableCesm latest]
      cases chainStatus with
      | finalityViolated =>
          obtain ⟨broken, error, passed, isBroken⟩ :=
            keepUpdating_finalityViolated worker.stableCesm
              iteration.stableAnswers .stable fuel 0
          simp [passed, isBroken]
      | good tail =>
          by_cases broken : worker.stableCesm.BrokenDown
          · simp [keepUpdating_brokenDown broken, broken]
          · simp [keepUpdating_unbroken broken accepts serves.stable, broken]

theorem iterate_unstable_unbroken
    (sound : ¬worker.unstableCesm.BrokenDown) (fuel : Nat)
    (iteration : WorkerIteration) :
    ¬(worker.iterate (fuel + 1) iteration).1.unstableCesm.BrokenDown := by
  unfold UnstableContractEventStateMachineWorker.iterate
  cases iteration.chainStatus with
  | none => exact sound
  | some chainStatus =>
      simp only
      by_cases broken : worker.stableCesm.BrokenDown
      · rw [keepUpdating_brokenDown broken]
        exact sound
      · split
        · exact sound
        · exact sound
        · rename_i stableCesm stablePassed
          have stableWorks :=
            keepUpdating_unbroken_of_finished broken stablePassed
          rw [iterateUnstable]
          split
          · exact sound
          · exact sound
          · rename_i newUnstableCesm unstablePassed
            have fresh :=
              keepUpdating_unbroken_of_finished stableWorks unstablePassed
            exact publish_unbroken
              { worker with stableCesm := stableCesm } sound fresh

/-- A run breaks the stable machine down when one of its iterations finds a
violation. -/
theorem run_brokenDown_iff
    (accepts : AcceptsDecoded S worker.stableCesm.contractEventFilter Served)
    (fuel : Nat) {iterations : List WorkerIteration}
    (serves : ∀ iteration ∈ iterations, iteration.Serves Served) :
    (worker.run (fuel + 1) iterations).stableCesm.BrokenDown ↔
      worker.stableCesm.BrokenDown ∨
        ∃ iteration ∈ iterations,
          iteration.chainStatus = some .finalityViolated := by
  induction iterations generalizing worker with
  | nil => simp [run]
  | cons iteration iterations induction =>
      rw [run, List.foldl_cons, ← run]
      rw [← iterate_contractEventFilter worker (fuel + 1) iteration] at accepts
      rw [induction accepts fun later member =>
        serves later (List.mem_cons_of_mem _ member)]
      rw [iterate_contractEventFilter] at accepts
      rw [iterate_brokenDown_iff accepts (serves _ List.mem_cons_self)]
      simp only [List.mem_cons, exists_eq_or_imp, or_assoc]

theorem run_unstable_unbroken (sound : ¬worker.unstableCesm.BrokenDown)
    (fuel : Nat) (iterations : List WorkerIteration) :
    ¬(worker.run (fuel + 1) iterations).unstableCesm.BrokenDown := by
  induction iterations generalizing worker with
  | nil => exact sound
  | cons iteration iterations induction =>
      exact induction (iterate_unstable_unbroken sound fuel iteration)

/-- The worker breaks down with the chain, not with what the RPC serves. -/
def BreaksWithChain
    (worker : UnstableContractEventStateMachineWorker S Filter)
    (Served : EVMLog → Prop) : Prop :=
  ∀ fuel iterations, (∀ iteration ∈ iterations, iteration.Serves Served) →
    ((worker.run (fuel + 1) iterations).stableCesm.BrokenDown ↔
      ∃ iteration ∈ iterations,
        iteration.chainStatus = some .finalityViolated) ∧
    ¬(worker.run (fuel + 1) iterations).unstableCesm.BrokenDown

theorem breaksWithChain_spawn {filter : Filter}
    (accepts : AcceptsDecoded S filter Served) (startBlockNumber : UInt64)
    (addresses : List Address) (state : S) :
    BreaksWithChain (spawn (.new startBlockNumber addresses state filter))
      Served := by
  intro fuel iterations serves
  have fresh : ¬(ContractEventStateMachine.new startBlockNumber addresses
      state filter).BrokenDown := by
    simp [BrokenDown, ContractEventStateMachine.new]
  constructor
  · have broken := @run_brokenDown_iff S Filter Event _ _ Served
      (spawn (.new startBlockNumber addresses state filter)) accepts fuel
      iterations serves
    rw [broken]
    exact or_iff_right fresh
  · exact run_unstable_unbroken fresh fuel iterations

end UnstableContractEventStateMachineWorker

end Machines

/-! ### The machines of a lane's destination -/

theorem DestBlessState.acceptsDecoded (keccak : Keccak)
    (filter : VersionedDestEventFilter) :
    letI := VersionedDestEventFilter.decoding keccak
    AcceptsDecoded DestBlessState filter fun _ => True := by
  intro state log event _ decoded
  obtain ⟨_, _, ofLane⟩ :=
    (filter.decodeLog_dispatches log).ofLane decoded
  obtain ⟨next, accepted⟩ := state.updateWithEvent_ofLane ofLane
  refine ⟨next, ?_⟩
  simp only [State.updateWithEvent, accepted]

/-- The log decodes to no execution whose number is not below the bound. -/
def ExecutionsBelow (filter : SimpleExecutionStateChangedFilter)
    (bound : UInt64) (log : EVMLog) : Prop :=
  ∀ ev : ExecutionStateChanged,
    ContractEventFilter.decodeLog filter log = .ok ev →
      ev.sequenceNumber < bound

theorem DestOffRampState.acceptsDecoded {Bits : Type} [BitSet Bits]
    {bound : UInt64} (room : BitSet.HasRoom Bits bound)
    (filter : SimpleExecutionStateChangedFilter) :
    AcceptsDecoded (DestOffRampState Bits) filter
      (ExecutionsBelow filter bound) := by
  intro state log ev below decoded
  obtain ⟨next, updated⟩ := updateWithEvent_returns room state
    (below ev decoded)
  refine ⟨next, ?_⟩
  simp only [State.updateWithEvent, updated]

/-- Whatever logs an RPC serves, the two workers on a lane's destination break
down exactly when one of their iterations finds a finality violation, and what
they publish never does.  The off-ramp's logs are those of executions that the
bit set has room for. -/
theorem dest_workers_break_down_with_the_chain {Bits : Type} [BitSet Bits]
    {bound : UInt64} (room : BitSet.HasRoom Bits bound) (keccak : Keccak)
    (startBlockNumber : UInt64) (addresses : List Address) :
    letI := VersionedDestEventFilter.decoding keccak
    (∀ (initial : DestBlessState) (filter : VersionedDestEventFilter),
      (UnstableContractEventStateMachineWorker.spawn
        (.new startBlockNumber addresses initial filter)).BreaksWithChain
          fun _ => True) ∧
    ∀ (initial : DestOffRampState Bits)
        (filter : SimpleExecutionStateChangedFilter),
      (UnstableContractEventStateMachineWorker.spawn
        (.new startBlockNumber addresses initial filter)).BreaksWithChain
          (ExecutionsBelow filter bound) := by
  let _ := VersionedDestEventFilter.decoding keccak
  constructor
  · intro initial filter
    exact UnstableContractEventStateMachineWorker.breaksWithChain_spawn
      (DestBlessState.acceptsDecoded keccak filter) startBlockNumber addresses
      initial
  · intro initial filter
    exact UnstableContractEventStateMachineWorker.breaksWithChain_spawn
      (DestOffRampState.acceptsDecoded room filter) startBlockNumber addresses
      initial

/-- A pass up to block 6 that reads one execution of block 5. -/
def executionIteration : WorkerIteration where
  chainStatus := some (.good (.single (numberedBlock 6)))
  stableAnswers _ _ toBlock _ := .ok ⟨toBlock, (oneExecution 5).logs⟩
  unstableAnswers _ _ toBlock _ := .ok ⟨toBlock, []⟩

def violatedIteration : WorkerIteration :=
  { executionIteration with chainStatus := some .finalityViolated }

theorem executionIteration_serves :
    executionIteration.Serves
      (ExecutionsBelow ⟨executionStateChangedTopic⟩ SmallBitSet.bound) := by
  constructor
  · intro pass fromBlock toBlock cache page answered log member ev decoded
    cases answered
    rw [List.mem_singleton.mp member] at decoded
    have isFirst : ContractEventFilter.decodeLog
        (SimpleExecutionStateChangedFilter.mk executionStateChangedTopic)
        (executionLog 5 1 2 (SizedBytes.replicate 32 1)) =
          .ok ⟨1, SizedBytes.replicate 32 1, .success⟩ := by
      decide +kernel
    cases decoded.symm.trans isFirst
    decide
  · intro pass fromBlock toBlock cache page answered log member
    cases answered
    cases member

/-- The off-ramp's worker over a new machine at block 3. -/
def offRampWorker : UnstableContractEventStateMachineWorker
    (DestOffRampState SmallBitSet) SimpleExecutionStateChangedFilter :=
  .spawn (.new 3 [] .default ⟨executionStateChangedTopic⟩)

/-- The execution does not break the worker down, and the violation does. -/
theorem dest_workers_break_down_with_the_chain_oneViolation :
    (offRampWorker.run 2
        [executionIteration]).stableCesm.state.maxSequenceNumber = some 1 ∧
      ¬(offRampWorker.run 2 [executionIteration]).stableCesm.BrokenDown ∧
      (offRampWorker.run 2
        [executionIteration, violatedIteration]).stableCesm.BrokenDown ∧
      ¬(offRampWorker.run 2
        [executionIteration, violatedIteration]).unstableCesm.BrokenDown := by
  have workers := (dest_workers_break_down_with_the_chain
    SmallBitSet.hasRoom lengthHash 3 []).2 .default
      ⟨executionStateChangedTopic⟩
  have serves := executionIteration_serves
  have violatedServes : violatedIteration.Serves _ :=
    ⟨serves.stable, serves.unstable⟩
  obtain ⟨firstBroken, _⟩ := workers 1 [executionIteration] (by simp [serves])
  obtain ⟨thenBroken, published⟩ :=
    workers 1 [executionIteration, violatedIteration]
      (by simp [serves, violatedServes])
  refine ⟨by decide +kernel, ?_, ?_, published⟩
  · rintro broken
    obtain ⟨iteration, member, violated⟩ := firstBroken.mp broken
    rw [List.mem_singleton.mp member] at violated
    cases violated
  · apply thenBroken.mpr
    exact ⟨violatedIteration, by simp, rfl⟩

end RiskManagement
