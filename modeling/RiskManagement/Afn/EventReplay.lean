import RiskManagement.Afn.ContractEventStateMachine
import RiskManagement.Library.KeyedWindow

/-!
# What one update of an event state machine can do

`Applies` reads the loop over a page of logs and `Updates` the whole call, one
constructor for each exit.  `replay` is the plain fold that the machine is
compared with.
-/

namespace RiskManagement

variable {S Filter Event : Type} [ContractEventFilter Filter Event]
  [State S Filter Event]

/-- A log that decodes and whose event the state accepts. -/
def replayLog (filter : Filter) (state : S) (log : EVMLog) : Option S :=
  match ContractEventFilter.decodeLog filter log with
  | .error _ => none
  | .ok event =>
      match State.updateWithEvent state log.blockNumber log.blockHash
          log.address filter event with
      | (_, .error _) => none
      | (next, .ok ()) => some next

/-- The left fold of `update_with_event`; `none` where an event fails. -/
def replay (filter : Filter) (state : S) (logs : List EVMLog) : Option S :=
  logs.foldlM (replayLog filter) state

theorem replay_cons (filter : Filter) (state : S) (log : EVMLog)
    (logs : List EVMLog) :
    replay filter state (log :: logs) =
      (replayLog filter state log).bind fun next =>
        replay filter next logs := by
  rw [replay]
  rw [List.foldlM_cons]
  rfl

theorem replay_append (filter : Filter) (state : S)
    (before after : List EVMLog) :
    replay filter state (before ++ after) =
      (replay filter state before).bind fun next =>
        replay filter next after := by
  rw [replay]
  rw [List.foldlM_append]
  rfl

/-- Under `Finality::Unstable` the log's block is the tail's block of that
number. -/
def Verified (finality : Finality) (chainStatus : ChainStatus)
    (log : EVMLog) : Prop :=
  finality = .unstable →
    ∃ block, chainStatus.blockByNumber log.blockNumber = some block ∧
      block.hash = log.blockHash

/-- How the loop over the logs of a page ends. -/
inductive Applies (filter : Filter) (finality : Finality)
    (chainStatus : ChainStatus) : S → List EVMLog → Applied S → Prop where
  | done {state : S} : Applies filter finality chainStatus state [] (.ok state)
  | next {state next : S} {log : EVMLog} {logs : List EVMLog}
      {applied : Applied S} :
      Verified finality chainStatus log →
      replayLog filter state log = some next →
      Applies filter finality chainStatus next logs applied →
      Applies filter finality chainStatus state (log :: logs) applied
  | missing {state : S} {log : EVMLog} {logs : List EVMLog} :
      finality = .unstable →
      chainStatus.blockByNumber log.blockNumber = none →
      Applies filter finality chainStatus state (log :: logs)
        (.exit state (.notInChainStatus log.blockNumber chainStatus))
  | mismatch {state : S} {log : EVMLog} {logs : List EVMLog} {block : Block} :
      finality = .unstable →
      chainStatus.blockByNumber log.blockNumber = some block →
      block.hash ≠ log.blockHash →
      Applies filter finality chainStatus state (log :: logs)
        (.corrupting state (.mismatch block log))
  | undecodable {state : S} {log : EVMLog} {logs : List EVMLog}
      {error : DecodeLogError} :
      Verified finality chainStatus log →
      ContractEventFilter.decodeLog filter log = .error error →
      Applies filter finality chainStatus state (log :: logs)
        (.exit state (.decode error))
  | rejected {state next : S} {log : EVMLog} {logs : List EVMLog}
      {event : Event} {error : StateError} :
      Verified finality chainStatus log →
      ContractEventFilter.decodeLog filter log = .ok event →
      State.updateWithEvent state log.blockNumber log.blockHash log.address
        filter event = (next, .error error) →
      Applies filter finality chainStatus state (log :: logs)
        (.corrupting next (.event error))

section Loop

variable {filter : Filter} {finality : Finality} {chainStatus : ChainStatus}

theorem applyLogs_of_verified {state : S} {log : EVMLog}
    {logs : List EVMLog} (verified : Verified finality chainStatus log)
    (induction : ∀ next : S, Applies filter finality chainStatus next logs
      (applyLogs filter finality chainStatus next logs)) :
    Applies filter finality chainStatus state (log :: logs)
      (match applyEvent filter state log with
        | .ok next => applyLogs filter finality chainStatus next logs
        | .corrupting next error => .corrupting next error
        | .exit next error => .exit next error) := by
  rw [applyEvent]
  cases decoded : ContractEventFilter.decodeLog filter log with
  | error error => exact .undecodable verified decoded
  | ok event =>
      cases updated : State.updateWithEvent state log.blockNumber
          log.blockHash log.address filter event with
      | mk next result =>
          cases result with
          | error error =>
              simp only [updated]
              exact .rejected verified decoded updated
          | ok _ =>
              simp only [updated]
              apply Applies.next verified _ (induction next)
              simp [replayLog, decoded, updated]

theorem applyLogs_applies (state : S) (logs : List EVMLog) :
    Applies filter finality chainStatus state logs
      (applyLogs filter finality chainStatus state logs) := by
  induction logs generalizing state with
  | nil => exact .done
  | cons log logs induction =>
      rw [applyLogs]
      cases finality with
      | stable =>
          simp only [applyLog]
          apply applyLogs_of_verified _ induction
          intro isUnstable
          cases isUnstable
      | unstable =>
          simp only [applyLog]
          cases found : chainStatus.blockByNumber log.blockNumber with
          | none => exact .missing rfl found
          | some block =>
              by_cases same : block.hash = log.blockHash
              · simp only [same, ne_eq, not_true_eq_false, ↓reduceIte]
                apply applyLogs_of_verified _ induction
                intro _
                exact ⟨block, found, same⟩
              · simp only [ne_eq, same, not_false_eq_true, ↓reduceIte]
                exact .mismatch rfl found same

/-- A page that is applied to its end is the fold over its logs, each of them
verified. -/
theorem Applies.of_ok {state last : S} {logs : List EVMLog}
    (applies : Applies filter finality chainStatus state logs (.ok last)) :
    replay filter state logs = some last ∧
      ∀ log ∈ logs, Verified finality chainStatus log := by
  generalize outcome : Applied.ok last = applied at applies
  induction applies with
  | done =>
      cases outcome
      exact ⟨rfl, by simp⟩
  | next verified replayed _ induction =>
      obtain ⟨rest, restVerified⟩ := induction outcome
      constructor
      · rw [replay_cons, replayed]
        exact rest
      · intro log member
        rcases List.mem_cons.mp member with rfl | later
        · exact verified
        · exact restVerified log later
  | missing _ _ => cases outcome
  | mismatch _ _ _ => cases outcome
  | undecodable _ _ => cases outcome
  | rejected _ _ _ => cases outcome

/-- The two exits through `?`: an unknown block number and a log that does
not decode. -/
def SoftFails (filter : Filter) (finality : Finality)
    (chainStatus : ChainStatus) (log : EVMLog) : Prop :=
  (finality = .unstable ∧
      chainStatus.blockByNumber log.blockNumber = none) ∨
    (Verified finality chainStatus log ∧
      ∃ error, ContractEventFilter.decodeLog filter log = .error error)

/-- The logs before the one that leaves through `?` were all applied. -/
theorem Applies.of_exit {state last : S} {logs : List EVMLog}
    {error : MachineError}
    (applies : Applies filter finality chainStatus state logs
      (.exit last error)) :
    ∃ before log after, logs = before ++ log :: after ∧
      replay filter state before = some last ∧
      (∀ earlier ∈ before, Verified finality chainStatus earlier) ∧
      SoftFails filter finality chainStatus log := by
  generalize outcome : Applied.exit last error = applied at applies
  induction applies with
  | done => cases outcome
  | @next state next log logs applied verified replayed _ induction =>
      obtain ⟨before, failing, after, split, restReplayed, restVerified,
        fails⟩ := induction outcome
      refine ⟨log :: before, failing, after, ?_, ?_, ?_, fails⟩
      · rw [split, List.cons_append]
      · rw [replay_cons, replayed]
        exact restReplayed
      · intro earlier member
        rcases List.mem_cons.mp member with rfl | later
        · exact verified
        · exact restVerified earlier later
  | @missing state log logs isUnstable absent =>
      cases outcome
      exact ⟨[], log, logs, rfl, rfl, by simp, .inl ⟨isUnstable, absent⟩⟩
  | mismatch _ _ _ => cases outcome
  | @undecodable state log logs error verified undecoded =>
      cases outcome
      exact ⟨[], log, logs, rfl, rfl, by simp,
        .inr ⟨verified, error, undecoded⟩⟩
  | rejected _ _ _ => cases outcome

/-- Where every log decodes, the loop is left through `?` only at a log whose
block is not in the chain status. -/
theorem Applies.absent_of_exit {state last : S} {logs : List EVMLog}
    {error : MachineError}
    (applies : Applies filter finality chainStatus state logs
      (.exit last error))
    (decodes : ∀ log ∈ logs, ∃ event,
      ContractEventFilter.decodeLog filter log = .ok event) :
    finality = .unstable ∧
      ∃ log ∈ logs, chainStatus.blockByNumber log.blockNumber = none := by
  obtain ⟨before, log, after, rfl, _, _, fails⟩ := applies.of_exit
  have member : log ∈ before ++ log :: after :=
    List.mem_append_right before List.mem_cons_self
  rcases fails with ⟨isUnstable, absent⟩ | ⟨_, error, undecoded⟩
  · exact ⟨isUnstable, log, member, absent⟩
  · obtain ⟨event, decoded⟩ := decodes log member
    rw [decoded] at undecoded
    cases undecoded

/-- Only a rejected event or an unstable mismatch corrupts the machine. -/
theorem Applies.of_corrupting {state last : S} {logs : List EVMLog}
    {error : MachineError}
    (applies : Applies filter finality chainStatus state logs
      (.corrupting last error)) :
    (∃ rejection, error = .event rejection) ∨
      finality = .unstable ∧ ∃ block log, error = .mismatch block log := by
  generalize outcome : Applied.corrupting last error = applied at applies
  induction applies with
  | done => cases outcome
  | next _ _ _ induction => exact induction outcome
  | missing _ _ => cases outcome
  | mismatch isUnstable _ _ =>
      cases outcome
      exact .inr ⟨isUnstable, _, _, rfl⟩
  | undecodable _ _ => cases outcome
  | rejected _ _ _ =>
      cases outcome
      exact .inl ⟨_, rfl⟩

theorem applyLog_eq_applyEvent {state : S} {log : EVMLog}
    (verified : Verified finality chainStatus log) :
    applyLog filter finality chainStatus state log =
      applyEvent filter state log := by
  cases finality with
  | stable => rfl
  | unstable =>
      obtain ⟨block, found, same⟩ := verified rfl
      simp [applyLog, found, same]

theorem applyEvent_of_replayLog {state next : S} {log : EVMLog}
    (replayed : replayLog filter state log = some next) :
    applyEvent filter state log = .ok next := by
  rw [replayLog] at replayed
  rw [applyEvent]
  cases decoded : ContractEventFilter.decodeLog filter log with
  | error error => simp [decoded] at replayed
  | ok event =>
      cases updated : State.updateWithEvent state log.blockNumber
          log.blockHash log.address filter event with
      | mk left result =>
          cases result with
          | error error => simp [decoded, updated] at replayed
          | ok _ =>
              simp only [decoded, updated, Option.some.injEq] at replayed
              simp [updated, replayed]

theorem applyLogs_append {state last : S} {before : List EVMLog}
    (after : List EVMLog) (replayed : replay filter state before = some last)
    (verified : ∀ log ∈ before, Verified finality chainStatus log) :
    applyLogs filter finality chainStatus state (before ++ after) =
      applyLogs filter finality chainStatus last after := by
  induction before generalizing state with
  | nil =>
      cases replayed
      rfl
  | cons log before induction =>
      rw [replay_cons] at replayed
      obtain ⟨next, first, rest⟩ := Option.bind_eq_some_iff.mp replayed
      have logVerified := verified log List.mem_cons_self
      rw [List.cons_append, applyLogs, applyLog_eq_applyEvent logVerified,
        applyEvent_of_replayLog first]
      apply induction rest
      intro later member
      exact verified later (List.mem_cons_of_mem log member)

/-- A failing log after logs that are applied leaves the loop there. -/
theorem applyLogs_of_softFails {state last : S} {before after : List EVMLog}
    {log : EVMLog} (replayed : replay filter state before = some last)
    (verified : ∀ earlier ∈ before, Verified finality chainStatus earlier)
    (fails : SoftFails filter finality chainStatus log) :
    ∃ error, applyLogs filter finality chainStatus state
      (before ++ log :: after) = .exit last error := by
  rw [applyLogs_append _ replayed verified, applyLogs]
  rcases fails with ⟨isUnstable, absent⟩ | ⟨logVerified, error, undecoded⟩
  · subst isUnstable
    simp only [applyLog, absent]
    exact ⟨_, rfl⟩
  · rw [applyLog_eq_applyEvent logVerified]
    simp only [applyEvent, undecoded]
    exact ⟨_, rfl⟩

end Loop

/-! ## One call of `update` -/

namespace ContractEventStateMachine

/-- All that one call of `update` can do. -/
inductive Updates (self : ContractEventStateMachine S Filter)
    (getPartialLogs : GetPartialLogs) (chainStatus : ChainStatus)
    (finality : Finality) : ContractEventStateMachine S Filter ×
      Except MachineError ContractStateMachineUpdateResult → Prop where
  | brokeDown :
      self.updateProgress = .corrupted →
      Updates self getPartialLogs chainStatus finality
        (self, .error .brokeDown)
  | finalityViolated {start : UInt64} :
      self.updateProgress = .nextStartBlockNumber start →
      chainStatus = .finalityViolated →
      Updates self getPartialLogs chainStatus finality
        ({ self with updateProgress := .corrupted },
          .error .finalityViolated)
  | upToDate {start : UInt64} {tail : Tail} :
      self.updateProgress = .nextStartBlockNumber start →
      chainStatus = .good tail →
      finality.maxEndBlockNumber tail < start →
      Updates self getPartialLogs chainStatus finality
        ({ self with timestamp := some tail.tip.timestamp }, .ok .complete)
  | notFetched {start : UInt64} {tail : Tail} {detail : String} :
      self.updateProgress = .nextStartBlockNumber start →
      chainStatus = .good tail →
      start ≤ finality.maxEndBlockNumber tail →
      getPartialLogs start (finality.maxEndBlockNumber tail)
        finality.usesCache = .error detail →
      Updates self getPartialLogs chainStatus finality
        (self, .error (.rpc detail))
  | page {start : UInt64} {tail : Tail} {partialLogs : PartialLogs}
      {applied : Applied S} :
      self.updateProgress = .nextStartBlockNumber start →
      chainStatus = .good tail →
      start ≤ finality.maxEndBlockNumber tail →
      getPartialLogs start (finality.maxEndBlockNumber tail)
        finality.usesCache = .ok partialLogs →
      Applies self.contractEventFilter finality chainStatus self.state
        partialLogs.logs applied →
      Updates self getPartialLogs chainStatus finality
        (self.finishPage tail finality partialLogs applied)

theorem update_updates (self : ContractEventStateMachine S Filter)
    (getPartialLogs : GetPartialLogs) (chainStatus : ChainStatus)
    (finality : Finality) :
    Updates self getPartialLogs chainStatus finality
      (self.update getPartialLogs chainStatus finality) := by
  rw [update]
  cases progress : self.updateProgress with
  | corrupted => exact .brokeDown progress
  | nextStartBlockNumber start =>
      cases chainStatus with
      | finalityViolated => exact .finalityViolated progress rfl
      | good tail =>
          by_cases upToDate : finality.maxEndBlockNumber tail < start
          · simp only [upToDate, ↓reduceIte]
            rw [← progress]
            exact .upToDate progress rfl upToDate
          · simp only [upToDate, ↓reduceIte]
            have order := UInt64.not_lt.mp upToDate
            cases fetched : getPartialLogs start
                (finality.maxEndBlockNumber tail) finality.usesCache with
            | error detail => exact .notFetched progress rfl order fetched
            | ok partialLogs =>
                exact .page progress rfl order fetched
                  (applyLogs_applies _ _)

/-- A corrupted machine answers every call with the same error. -/
theorem update_corrupted {self : ContractEventStateMachine S Filter}
    (corrupted : self.updateProgress = .corrupted)
    (getPartialLogs : GetPartialLogs) (chainStatus : ChainStatus)
    (finality : Finality) :
    self.update getPartialLogs chainStatus finality =
      (self, .error .brokeDown) := by
  rw [update]
  rw [corrupted]

end ContractEventStateMachine

end RiskManagement
