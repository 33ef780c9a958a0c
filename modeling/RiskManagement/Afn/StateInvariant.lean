import RiskManagement.Afn.EventReplay
import RiskManagement.Afn.UnstableWorker

/-!
# The invariant rule for event state machines

A property of the state that every event of a served log keeps, also when the
event is rejected, holds of both machines of a worker after any iterations.
Where the logs come from is a predicate, so that a state can be traced back to
the logs it was made from.
-/

namespace RiskManagement

variable {S Filter Event : Type} [ContractEventFilter Filter Event]
  [State S Filter Event]

/-- Every answer has only logs of the given kind. -/
def GetPartialLogs.Serves (getPartialLogs : GetPartialLogs)
    (Served : EVMLog → Prop) : Prop :=
  ∀ fromBlock toBlock cache page,
    getPartialLogs fromBlock toBlock cache = .ok page →
      ∀ log ∈ page.logs, Served log

/-- The RPC serves only such logs, to both passes of an iteration. -/
structure WorkerIteration.Serves (iteration : WorkerIteration)
    (Served : EVMLog → Prop) : Prop where
  stable : ∀ pass, (iteration.stableAnswers pass).Serves Served
  unstable : ∀ pass, (iteration.unstableAnswers pass).Serves Served

/-- Every event of such a log keeps the property. -/
def KeptByEvents (filter : Filter) (Served : EVMLog → Prop)
    (Holds : S → Prop) : Prop :=
  ∀ state log event, Holds state → Served log →
    ContractEventFilter.decodeLog filter log = .ok event →
      Holds (State.updateWithEvent state log.blockNumber log.blockHash
        log.address filter event).1

/-- The property holds of the state that a page of logs leaves. -/
def Applied.Satisfies (Holds : S → Prop) : Applied S → Prop
  | .ok state => Holds state
  | .corrupting state _ => Holds state
  | .exit state _ => Holds state

section Rule

variable {filter : Filter} {finality : Finality} {chainStatus : ChainStatus}
  {Served : EVMLog → Prop} {Holds : S → Prop}

theorem Applies.satisfies {state : S} {logs : List EVMLog}
    {applied : Applied S}
    (applies : Applies filter finality chainStatus state logs applied)
    (kept : KeptByEvents filter Served Holds)
    (served : ∀ log ∈ logs, Served log) (holds : Holds state) :
    applied.Satisfies Holds := by
  induction applies with
  | done => exact holds
  | @next state next log logs applied _ replayed _ induction =>
      apply induction (fun later member =>
        served later (List.mem_cons_of_mem log member))
      rw [replayLog] at replayed
      cases decoded : ContractEventFilter.decodeLog filter log with
      | error error => simp [decoded] at replayed
      | ok event =>
          have afterEvent :=
            kept state log event holds (served log List.mem_cons_self) decoded
          simp only [decoded] at replayed
          generalize State.updateWithEvent state log.blockNumber log.blockHash
            log.address filter event = updated at replayed afterEvent
          obtain ⟨left, result⟩ := updated
          cases result with
          | error error => cases replayed
          | ok _ =>
              cases replayed
              exact afterEvent
  | missing _ _ => exact holds
  | mismatch _ _ _ => exact holds
  | undecodable _ _ => exact holds
  | @rejected state next log logs event error _ decoded updated =>
      have afterEvent :=
        kept state log event holds (served log List.mem_cons_self) decoded
      rw [updated] at afterEvent
      exact afterEvent

namespace ContractEventStateMachine

variable {machine : ContractEventStateMachine S Filter}

/-- The property holds of the machine, whose filter is the given one. -/
structure Satisfies (machine : ContractEventStateMachine S Filter)
    (filter : Filter) (Holds : S → Prop) : Prop where
  sameFilter : machine.contractEventFilter = filter
  holds : Holds machine.state

theorem Satisfies.finishPage (satisfies : machine.Satisfies filter Holds)
    (tail : Tail) (partialLogs : PartialLogs) {applied : Applied S}
    (holds : applied.Satisfies Holds) :
    (machine.finishPage tail finality partialLogs applied).1.Satisfies filter
      Holds := by
  cases applied with
  | exit state error => exact ⟨satisfies.sameFilter, holds⟩
  | corrupting state error => exact ⟨satisfies.sameFilter, holds⟩
  | ok state =>
      unfold ContractEventStateMachine.finishPage
      simp only
      split
      · exact ⟨satisfies.sameFilter, holds⟩
      · exact ⟨satisfies.sameFilter, holds⟩

/-- Whatever a call of `update` returns, it keeps the property. -/
theorem Satisfies.update (satisfies : machine.Satisfies filter Holds)
    (kept : KeptByEvents filter Served Holds)
    {getPartialLogs : GetPartialLogs} (serves : getPartialLogs.Serves Served)
    (chainStatus : ChainStatus) (finality : Finality) :
    (machine.update getPartialLogs chainStatus finality).1.Satisfies filter
      Holds := by
  have updates := machine.update_updates getPartialLogs chainStatus finality
  generalize machine.update getPartialLogs chainStatus finality = result
    at updates
  cases updates with
  | brokeDown _ => exact satisfies
  | finalityViolated _ _ => exact ⟨satisfies.sameFilter, satisfies.holds⟩
  | upToDate _ _ _ => exact ⟨satisfies.sameFilter, satisfies.holds⟩
  | notFetched _ _ _ _ => exact satisfies
  | page _ _ _ fetched applies =>
      rw [satisfies.sameFilter] at applies
      apply satisfies.finishPage
      exact applies.satisfies kept (serves _ _ _ _ fetched) satisfies.holds

theorem Satisfies.keepUpdating (satisfies : machine.Satisfies filter Holds)
    (kept : KeptByEvents filter Served Holds) (isDone : Nat → Bool)
    {answers : Nat → GetPartialLogs}
    (serves : ∀ pass, (answers pass).Serves Served)
    (chainStatus : ChainStatus) (finality : Finality) (fuel pass : Nat) :
    (keepUpdatingUntilCompleteOrShutdownRequest isDone answers chainStatus
      finality fuel pass machine).1.Satisfies filter Holds := by
  induction fuel generalizing pass machine with
  | zero => exact satisfies
  | succ fuel induction =>
      rw [keepUpdatingUntilCompleteOrShutdownRequest]
      have updated := satisfies.update kept (serves pass) chainStatus finality
      generalize machine.update (answers pass) chainStatus finality = result
        at updated
      obtain ⟨next, outcome⟩ := result
      split
      · exact satisfies
      · cases outcome with
        | error error => exact updated
        | ok progress =>
            cases progress with
            | complete => exact updated
            | partialUpTo _ => exact induction updated (pass + 1)

end ContractEventStateMachine

namespace UnstableContractEventStateMachineWorker

variable {worker : UnstableContractEventStateMachineWorker S Filter}

/-- The property holds of both machines. -/
structure Satisfies
    (worker : UnstableContractEventStateMachineWorker S Filter)
    (filter : Filter) (Holds : S → Prop) : Prop where
  stable : worker.stableCesm.Satisfies filter Holds
  unstable : worker.unstableCesm.Satisfies filter Holds

theorem satisfies_spawn {cesm : ContractEventStateMachine S Filter}
    (satisfies : cesm.Satisfies filter Holds) :
    (spawn cesm).Satisfies filter Holds :=
  ⟨satisfies, satisfies⟩

theorem Satisfies.publish (satisfies : worker.Satisfies filter Holds)
    {newUnstableCesm : ContractEventStateMachine S Filter}
    (fresh : newUnstableCesm.Satisfies filter Holds) :
    (worker.publish newUnstableCesm).1.Satisfies filter Holds := by
  unfold UnstableContractEventStateMachineWorker.publish
  rw [ContractEventStateMachine.forkFrom]
  split
  · rename_i forked
    split at forked
    · exact satisfies
    · cases forked
  · rename_i published forked
    split at forked
    · cases forked
    · cases forked
      exact ⟨satisfies.stable, satisfies.unstable.sameFilter, fresh.holds⟩

/-- An iteration keeps the property of both machines, however it ends. -/
theorem Satisfies.iterate (satisfies : worker.Satisfies filter Holds)
    (kept : KeptByEvents filter Served Holds) {iteration : WorkerIteration}
    (serves : iteration.Serves Served) (fuel : Nat) :
    (worker.iterate fuel iteration).1.Satisfies filter Holds := by
  unfold UnstableContractEventStateMachineWorker.iterate
  cases iteration.chainStatus with
  | none => exact satisfies
  | some chainStatus =>
      have stablePass := satisfies.stable.keepUpdating kept
        (fun _ => false) serves.stable chainStatus .stable fuel 0
      simp only
      generalize keepUpdatingUntilCompleteOrShutdownRequest (fun _ => false)
        iteration.stableAnswers chainStatus .stable fuel 0 worker.stableCesm =
          stablePassed at stablePass
      obtain ⟨stableCesm, ended⟩ := stablePassed
      have stabilized : Satisfies
          { worker with stableCesm := stableCesm } filter Holds :=
        ⟨stablePass, satisfies.unstable⟩
      cases ended with
      | outOfFuel => exact stabilized
      | failed error => exact stabilized
      | finished =>
          simp only [iterateUnstable]
          have unstablePass := stablePass.keepUpdating kept
            (fun _ => false) serves.unstable chainStatus .unstable
            fuel 0
          simp only at unstablePass
          generalize keepUpdatingUntilCompleteOrShutdownRequest
            (fun _ => false) iteration.unstableAnswers chainStatus .unstable
            fuel 0 stableCesm = unstablePassed at unstablePass
          obtain ⟨newUnstableCesm, ended⟩ := unstablePassed
          cases ended with
          | outOfFuel => exact stabilized
          | failed error => exact stabilized
          | finished => exact stabilized.publish unstablePass

end UnstableContractEventStateMachineWorker

end Rule
end RiskManagement
