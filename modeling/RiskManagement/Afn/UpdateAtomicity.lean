import RiskManagement.Afn.ExactlyOnceReplay

/-!
# When a failed update leaves the machine as it was

An error either corrupts the machine, comes before the first log is applied,
or leaves the loop through `?`.  In the last case the logs before the failing
one are already in the live state while the progress stays behind them, so that
the next call applies them again.
-/

namespace RiskManagement

variable {S Filter Event : Type} [ContractEventFilter Filter Event]
  [State S Filter Event]

/-! ### The logs of a call that are applied -/

/-- The logs of a page whose events the loop hands to the state and the state
accepts. -/
def appliedLogs (filter : Filter) (finality : Finality)
    (chainStatus : ChainStatus) : S → List EVMLog → List EVMLog
  | _, [] => []
  | state, log :: logs =>
      match applyLog filter finality chainStatus state log with
      | .ok next => log :: appliedLogs filter finality chainStatus next logs
      | .corrupting _ _ => []
      | .exit _ _ => []

theorem appliedLogs_cons_of_applied {filter : Filter} {finality : Finality}
    {chainStatus : ChainStatus} {state next : S} {log : EVMLog}
    (logs : List EVMLog) (verified : Verified finality chainStatus log)
    (replayed : replayLog filter state log = some next) :
    appliedLogs filter finality chainStatus state (log :: logs) =
      log :: appliedLogs filter finality chainStatus next logs := by
  rw [appliedLogs, applyLog_eq_applyEvent verified,
    applyEvent_of_replayLog replayed]

theorem appliedLogs_cons_of_softFails {filter : Filter} {finality : Finality}
    {chainStatus : ChainStatus} {state : S} {log : EVMLog}
    (logs : List EVMLog) (fails : SoftFails filter finality chainStatus log) :
    appliedLogs filter finality chainStatus state (log :: logs) = [] := by
  rw [appliedLogs]
  rcases fails with ⟨isUnstable, absent⟩ | ⟨verified, error, undecoded⟩
  · subst isUnstable
    simp only [applyLog, absent]
  · rw [applyLog_eq_applyEvent verified]
    simp only [applyEvent, undecoded]

/-- One call of `update`. -/
structure UpdateCall where
  getPartialLogs : GetPartialLogs
  chainStatus : ChainStatus
  finality : Finality

namespace ContractEventStateMachine

def updateCall (self : ContractEventStateMachine S Filter)
    (call : UpdateCall) : ContractEventStateMachine S Filter ×
      Except MachineError ContractStateMachineUpdateResult :=
  self.update call.getPartialLogs call.chainStatus call.finality

/-- The machine after some calls, whatever they returned. -/
def runCalls (self : ContractEventStateMachine S Filter)
    (calls : List UpdateCall) : ContractEventStateMachine S Filter :=
  calls.foldl (fun machine call => (machine.updateCall call).1) self

/-- The logs that a call applies: some of the page that it fetches. -/
def appliedBy (self : ContractEventStateMachine S Filter)
    (call : UpdateCall) : List EVMLog :=
  match self.updateProgress, call.chainStatus with
  | .nextStartBlockNumber start, .good tail =>
      if call.finality.maxEndBlockNumber tail < start then
        []
      else
        match call.getPartialLogs start (call.finality.maxEndBlockNumber tail)
            call.finality.usesCache with
        | .error _ => []
        | .ok page =>
            appliedLogs self.contractEventFilter call.finality
              call.chainStatus self.state page.logs
  | _, _ => []

variable {self : ContractEventStateMachine S Filter} {call : UpdateCall}

theorem appliedBy_corrupted (corrupted : self.updateProgress = .corrupted)
    (call : UpdateCall) : self.appliedBy call = [] := by
  rw [appliedBy, corrupted]

theorem runCalls_corrupted (corrupted : self.updateProgress = .corrupted)
    (calls : List UpdateCall) : self.runCalls calls = self := by
  apply List.foldl_fixed'
  intro call
  rw [updateCall, update_corrupted corrupted]

/-! ### Atomic failures -/

/-- A failed call corrupts the machine or leaves its state and progress, and
no later call applies a log that it has applied. -/
structure FailureAtomic (machine : ContractEventStateMachine S Filter)
    (call : UpdateCall) : Prop where
  corrupted_or_kept :
    (machine.updateCall call).1.updateProgress = .corrupted ∨
      (machine.updateCall call).1.state = machine.state ∧
        (machine.updateCall call).1.updateProgress = machine.updateProgress
  applied_once : ∀ (later : List UpdateCall) (next : UpdateCall),
    ∀ log ∈ machine.appliedBy call,
      log ∉ ((machine.updateCall call).1.runCalls later).appliedBy next

/-- A failure leaves no trace, or breaks the machine for good. -/
def FailsAtomically (self : ContractEventStateMachine S Filter)
    (call : UpdateCall) : Prop :=
  ∀ error, (self.updateCall call).2 = .error error → self.FailureAtomic call

/-- The call reaches its page of logs. -/
structure Fetches (machine : ContractEventStateMachine S Filter)
    (call : UpdateCall) (start : UInt64) (tail : Tail) (page : PartialLogs) :
    Prop where
  progress : machine.updateProgress = .nextStartBlockNumber start
  good : call.chainStatus = .good tail
  order : start ≤ call.finality.maxEndBlockNumber tail
  fetched : call.getPartialLogs start (call.finality.maxEndBlockNumber tail)
    call.finality.usesCache = .ok page

/-- No log of the fetched page is applied before one that leaves the loop
through `?`. -/
def SoftFailuresComeFirst (self : ContractEventStateMachine S Filter)
    (call : UpdateCall) : Prop :=
  ∀ start tail page before log after last,
    self.Fetches call start tail page →
    page.logs = before ++ log :: after →
    (∀ earlier ∈ before,
      Verified call.finality call.chainStatus earlier) →
    replay self.contractEventFilter self.state before = some last →
    SoftFails self.contractEventFilter call.finality call.chainStatus log →
      before = []

theorem Fetches.appliedBy {start : UInt64} {tail : Tail} {page : PartialLogs}
    (fetches : self.Fetches call start tail page) :
    self.appliedBy call =
      appliedLogs self.contractEventFilter call.finality call.chainStatus
        self.state page.logs := by
  rw [ContractEventStateMachine.appliedBy]
  simp only [fetches.progress, fetches.good, fetches.fetched,
    if_neg (UInt64.not_lt.mpr fetches.order)]

/-- A machine that is corrupted applies nothing any more. -/
theorem failureAtomic_of_corrupted
    (corrupted : (self.updateCall call).1.updateProgress = .corrupted) :
    self.FailureAtomic call where
  corrupted_or_kept := .inl corrupted
  applied_once := by
    intro later next log _ again
    rw [runCalls_corrupted corrupted, appliedBy_corrupted corrupted] at again
    cases again

theorem failureAtomic_of_nothingApplied
    (kept : (self.updateCall call).1.state = self.state ∧
      (self.updateCall call).1.updateProgress = self.updateProgress)
    (nothing : self.appliedBy call = []) : self.FailureAtomic call where
  corrupted_or_kept := .inr kept
  applied_once := by
    intro later next log applied
    rw [nothing] at applied
    cases applied

theorem failsAtomically_of_softFailuresComeFirst
    (first : self.SoftFailuresComeFirst call) :
    self.FailsAtomically call := by
  intro error failure
  have updates := self.update_updates call.getPartialLogs call.chainStatus
    call.finality
  have isResult : self.updateCall call =
      self.update call.getPartialLogs call.chainStatus call.finality := rfl
  generalize self.update call.getPartialLogs call.chainStatus call.finality =
    result at updates isResult
  rw [isResult] at failure
  cases updates with
  | brokeDown corrupted =>
      apply failureAtomic_of_corrupted
      rw [isResult]
      exact corrupted
  | finalityViolated _ _ =>
      apply failureAtomic_of_corrupted
      rw [isResult]
  | upToDate _ _ _ => cases failure
  | notFetched progress isGood order failed =>
      apply failureAtomic_of_nothingApplied
      · rw [isResult]
        exact ⟨rfl, rfl⟩
      · rw [ContractEventStateMachine.appliedBy]
        simp only [progress, isGood, failed,
          if_neg (UInt64.not_lt.mpr order)]
  | @page start tail page applied progress isGood order fetched applies =>
      cases applied with
      | ok last =>
          by_cases whole : page.toBlock = call.finality.maxEndBlockNumber tail
          · rw [self.finishPage_whole last whole] at failure
            cases failure
          · rw [self.finishPage_partial last whole] at failure
            cases failure
      | corrupting last error =>
          apply failureAtomic_of_corrupted
          rw [isResult]
          rfl
      | exit last error =>
          obtain ⟨before, log, after, split, replayed, verified, fails⟩ :=
            applies.of_exit
          have fetches : self.Fetches call start tail page :=
            ⟨progress, isGood, order, fetched⟩
          have isEmpty := first start tail page before log after last fetches
            split verified replayed fails
          subst isEmpty
          cases replayed
          apply failureAtomic_of_nothingApplied
          · rw [isResult]
            exact ⟨rfl, rfl⟩
          · rw [fetches.appliedBy, split, List.nil_append]
            exact appliedLogs_cons_of_softFails after fails

/-- A call that leaves the loop through `?` keeps its progress. -/
theorem Fetches.updateCall_softFails {start : UInt64} {tail : Tail}
    {page : PartialLogs} (fetches : self.Fetches call start tail page)
    {before after : List EVMLog} {log : EVMLog} {last : S}
    (split : page.logs = before ++ log :: after)
    (verified : ∀ earlier ∈ before,
      Verified call.finality call.chainStatus earlier)
    (replayed : replay self.contractEventFilter self.state before = some last)
    (fails : SoftFails self.contractEventFilter call.finality
      call.chainStatus log) :
    ∃ error, self.updateCall call =
      ({ self with state := last }, .error error) := by
  obtain ⟨error, left⟩ : ∃ error, applyLogs self.contractEventFilter
      call.finality call.chainStatus self.state (before ++ log :: after) =
        .exit last error :=
    applyLogs_of_softFails replayed verified fails
  refine ⟨error, ?_⟩
  rw [updateCall, update]
  rw [fetches.progress, fetches.good]
  simp only [UInt64.not_lt.mpr fetches.order, ↓reduceIte, fetches.fetched]
  rw [split, ← fetches.good, left]
  simp [finishPage, fetches.progress]

/-- Where a log is applied before one that leaves through `?`, either the state
has changed or the same call applies the log again. -/
theorem softFailuresComeFirst_of_failsAtomically
    (atomic : self.FailsAtomically call) :
    self.SoftFailuresComeFirst call := by
  intro start tail page before log after last fetches split verified replayed
    fails
  obtain ⟨error, failed⟩ :=
    fetches.updateCall_softFails split verified replayed fails
  have failureAtomic := atomic error (by rw [failed])
  have keptState : last = self.state := by
    rcases failureAtomic.corrupted_or_kept with corrupted | ⟨kept, _⟩
    · rw [failed] at corrupted
      exact absurd (fetches.progress.symm.trans corrupted) (by simp)
    · rw [failed] at kept
      exact kept
  subst keptState
  cases before with
  | nil => rfl
  | cons first before =>
      rw [replay_cons] at replayed
      obtain ⟨next, isApplied, _⟩ := Option.bind_eq_some_iff.mp replayed
      have applied : first ∈ self.appliedBy call := by
        rw [fetches.appliedBy, split, List.cons_append,
          appliedLogs_cons_of_applied _ (verified first List.mem_cons_self)
            isApplied]
        exact List.mem_cons_self
      have again := failureAtomic.applied_once [] call first applied
      rw [failed] at again
      exact absurd applied again

/-- A call fails atomically exactly when no log of its page is applied before
one that leaves the loop through `?`. -/
theorem update_failsAtomically_iff
    (self : ContractEventStateMachine S Filter) (call : UpdateCall) :
    self.FailsAtomically call ↔ self.SoftFailuresComeFirst call := by
  constructor
  · exact softFailuresComeFirst_of_failsAtomically
  · exact failsAtomically_of_softFailuresComeFirst

end ContractEventStateMachine

/-- A page with an execution of sequence number 1 and one in an unknown
state. -/
def undecodableCall : UpdateCall where
  getPartialLogs := fun _ _ _ =>
    .ok ⟨7, [executionLog 5 1 2 (SizedBytes.replicate 32 1),
      executionLog 6 2 4 (SizedBytes.replicate 32 2)]⟩
  chainStatus := .good (.single (numberedBlock 7))
  finality := .stable

/-- The undecodable second log fails the call after the first one was applied;
a second call applies the first one again. -/
theorem update_replays_applied_log :
    ((offRampMachine 3).updateCall undecodableCall).2 =
        .error (.decode (.unknownState 4)) ∧
      ((offRampMachine 3).updateCall undecodableCall).1.updateProgress =
        .nextStartBlockNumber 3 ∧
      ((offRampMachine 3).updateCall undecodableCall).1.state ≠
        (offRampMachine 3).state ∧
      ¬(offRampMachine 3).FailsAtomically undecodableCall ∧
      ((offRampMachine 3).runCalls
          [undecodableCall, undecodableCall]).state.localAnomalies =
        [.doubleExecution 1 (some (SizedBytes.replicate 32 1))
          (SizedBytes.replicate 32 1) .success] := by
  have failure : ((offRampMachine 3).updateCall undecodableCall).2 =
      .error (.decode (.unknownState 4)) := by
    decide +kernel
  have progress :
      ((offRampMachine 3).updateCall undecodableCall).1.updateProgress =
        .nextStartBlockNumber 3 := by
    decide +kernel
  have changed : ((offRampMachine 3).updateCall undecodableCall).1.state ≠
      (offRampMachine 3).state := by
    decide +kernel
  refine ⟨failure, progress, changed, ?_, ?_⟩
  · intro atomic
    rcases (atomic _ failure).corrupted_or_kept with corrupted | ⟨same, _⟩
    · have contradiction := progress.symm.trans corrupted
      cases contradiction
    · exact changed same
  · decide +kernel

end RiskManagement
