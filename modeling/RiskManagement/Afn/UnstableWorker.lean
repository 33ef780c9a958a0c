import RiskManagement.Afn.ContractEventStateMachine

/-!
# The worker around a stable and an unstable machine

Each iteration brings the stable machine up to date, clones it, brings the
clone up to the tip and publishes it as the unstable machine.
-/

namespace RiskManagement

/-- The two machines that a worker publishes. -/
structure UnstableContractEventStateMachineWorker (S Filter : Type) where
  stableCesm : ContractEventStateMachine S Filter
  unstableCesm : ContractEventStateMachine S Filter

/-- What the environment of one iteration answers: the latest chain status, if
there is one, and the RPC in each pass of the two loops. -/
structure WorkerIteration where
  chainStatus : Option ChainStatus
  stableAnswers : Nat → GetPartialLogs
  unstableAnswers : Nat → GetPartialLogs

/-- How an iteration fails.  `forkUnwrap` is the panic of `unwrap` on a failed
fork and `outOfFuel` an iteration that is still running. -/
inductive WorkerError where
  | stableUpdate (error : MachineError)
  | unstableUpdate (error : MachineError)
  | forkUnwrap (detail : String)
  | outOfFuel
deriving DecidableEq

namespace UnstableContractEventStateMachineWorker

variable {S Filter Event : Type} [ContractEventFilter Filter Event]
  [State S Filter Event]

/-- The two machines before the first iteration. -/
def spawn (cesm : ContractEventStateMachine S Filter) :
    UnstableContractEventStateMachineWorker S Filter :=
  ⟨cesm, cesm⟩

/-- Publishing the clone; `fork_from` compares the addresses. -/
def publish (self : UnstableContractEventStateMachineWorker S Filter)
    (newUnstableCesm : ContractEventStateMachine S Filter) :
    UnstableContractEventStateMachineWorker S Filter ×
      Except WorkerError Unit :=
  match self.unstableCesm.forkFrom newUnstableCesm with
  | .error detail => (self, .error (.forkUnwrap detail))
  | .ok published => ({ self with unstableCesm := published }, .ok ())

/-- The unstable pass of an iteration, on a clone of the stable machine. -/
def iterateUnstable
    (self : UnstableContractEventStateMachineWorker S Filter) (fuel : Nat)
    (chainStatus : ChainStatus) (answers : Nat → GetPartialLogs) :
    UnstableContractEventStateMachineWorker S Filter ×
      Except WorkerError Unit :=
  match keepUpdatingUntilCompleteOrShutdownRequest (fun _ => false) answers
      chainStatus .unstable fuel 0 self.stableCesm with
  | (_, .outOfFuel) => (self, .error .outOfFuel)
  | (_, .failed error) => (self, .error (.unstableUpdate error))
  | (newUnstableCesm, .finished) => self.publish newUnstableCesm

/-- One pass of the worker loop without a shutdown request. -/
def iterate (self : UnstableContractEventStateMachineWorker S Filter)
    (fuel : Nat) (iteration : WorkerIteration) :
    UnstableContractEventStateMachineWorker S Filter ×
      Except WorkerError Unit :=
  match iteration.chainStatus with
  | none => (self, .ok ())
  | some chainStatus =>
      match keepUpdatingUntilCompleteOrShutdownRequest (fun _ => false)
          iteration.stableAnswers chainStatus .stable fuel 0
          self.stableCesm with
      | (stableCesm, .outOfFuel) =>
          ({ self with stableCesm := stableCesm }, .error .outOfFuel)
      | (stableCesm, .failed error) =>
          ({ self with stableCesm := stableCesm },
            .error (.stableUpdate error))
      | (stableCesm, .finished) =>
          iterateUnstable { self with stableCesm := stableCesm } fuel
            chainStatus iteration.unstableAnswers

/-- The worker after some iterations, whatever they returned. -/
def run (self : UnstableContractEventStateMachineWorker S Filter)
    (fuel : Nat) (iterations : List WorkerIteration) :
    UnstableContractEventStateMachineWorker S Filter :=
  iterations.foldl
    (fun worker iteration => (worker.iterate fuel iteration).1) self

end UnstableContractEventStateMachineWorker

end RiskManagement
