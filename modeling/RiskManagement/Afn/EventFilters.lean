import RiskManagement.Afn.DecodeLogSafety
import RiskManagement.Afn.DestBlessState
import RiskManagement.Afn.DestOffRampState
import RiskManagement.Afn.SourceBlessState

/-!
# The event filters of a lane

A filter names the topics that its state machine fetches, and decodes what the
machine is given.  Both look at the type of the lane, each in its own way.
-/

namespace RiskManagement

open Panics

/-- The errors of a filter's `decode_log`, one constructor for each text. -/
inductive FilterError where
  | emptyTopic
  | unknownTopic (topic : Bytes32) (laneType : LaneType)
  | event (error : DecodeLogError)
deriving DecidableEq

abbrev FilterDecoding := Run FilterError

/-- `Event::decode_log(log)?`. -/
def decodeEvent (keccak : Keccak) (Event : Type) [CheckedDecodeLog Event]
    (log : EVMLog) : FilterDecoding Event :=
  ExceptT.mk ((checkedDecodeLog keccak Event log).run.map
    (Except.mapError FilterError.event))

namespace VersionedCcipSendRequestFilter

variable (keccak : Keccak) (filter : VersionedCcipSendRequestFilter)

/-- Each version of the on-ramp has a topic of its own. -/
def logTopics : List Bytes32 :=
  match filter.laneType with
  | .evm2EvmV1_0 => [logTopic keccak CcipSendRequestedEventV1_0]
  | .evm2EvmV1_2 => [logTopic keccak CcipSendRequestedEventV1_2]

/-- The first topic must be the one that the version asks for. -/
def decodeLog (log : EVMLog) : FilterDecoding CcipSendRequestedEventUnion :=
  match log.topics.head? with
  | none => throw .emptyTopic
  | some topic =>
      if filter.laneType = .evm2EvmV1_0 ∧
          topic = logTopic keccak CcipSendRequestedEventV1_0 then
        .evm2EvmV1_0 <$> decodeEvent keccak CcipSendRequestedEventV1_0 log
      else if filter.laneType = .evm2EvmV1_2 ∧
          topic = logTopic keccak CcipSendRequestedEventV1_2 then
        .evm2EvmV1_2 <$> decodeEvent keccak CcipSendRequestedEventV1_2 log
      else
        throw (.unknownTopic topic filter.laneType)

end VersionedCcipSendRequestFilter

namespace VersionedDestEventFilter

variable (keccak : Keccak) (filter : VersionedDestEventFilter)

/-- The events of the AFN contract have no versions. -/
def logTopics : List Bytes32 :=
  let nonVersionedTopics := [
    logTopic keccak TaggedRootBlessedEvent,
    logTopic keccak TaggedRootBlessVotesResetEvent,
    logTopic keccak AlreadyBlessedEvent,
    logTopic keccak VotedToBlessEvent,
    logTopic keccak AlreadyVotedToBlessEvent]
  let versionedTopics :=
    match filter.laneType with
    | .evm2EvmV1_0 => [logTopic keccak ReportAcceptedEventV1_0]
    | .evm2EvmV1_2 => [logTopic keccak ReportAcceptedEventV1_2]
  nonVersionedTopics ++ versionedTopics

/-- The first topic tells which event a log is. -/
def decodeLog (log : EVMLog) : FilterDecoding DestEventUnion :=
  match log.topics.head? with
  | none => throw .emptyTopic
  | some topic =>
      if topic = logTopic keccak TaggedRootBlessedEvent then
        .blessed <$> decodeEvent keccak TaggedRootBlessedEvent log
      else if topic = logTopic keccak TaggedRootBlessVotesResetEvent then
        .blessVotesReset <$>
          decodeEvent keccak TaggedRootBlessVotesResetEvent log
      else if topic = logTopic keccak AlreadyBlessedEvent then
        .alreadyBlessed <$> decodeEvent keccak AlreadyBlessedEvent log
      else if topic = logTopic keccak VotedToBlessEvent then
        .voted <$> decodeEvent keccak VotedToBlessEvent log
      else if topic = logTopic keccak AlreadyVotedToBlessEvent then
        .alreadyVoted <$> decodeEvent keccak AlreadyVotedToBlessEvent log
      else if topic = logTopic keccak ReportAcceptedEventV1_0 ∧
          filter.laneType = .evm2EvmV1_0 then
        .committedV1_0 <$> decodeEvent keccak ReportAcceptedEventV1_0 log
      else if topic = logTopic keccak ReportAcceptedEventV1_2 ∧
          filter.laneType = .evm2EvmV1_2 then
        .committedV1_2 <$> decodeEvent keccak ReportAcceptedEventV1_2 log
      else
        throw (.unknownTopic topic filter.laneType)

end VersionedDestEventFilter

/-- The filter that an off-ramp's machine is made with. -/
def executionFilter (keccak : Keccak) : SimpleExecutionStateChangedFilter where
  logTopic := logTopic keccak ExecutionStateChanged

/-- `decode_log` with its panics. -/
def SimpleExecutionStateChangedFilter.checkedDecodeLog (keccak : Keccak)
    (_filter : SimpleExecutionStateChangedFilter) (log : EVMLog) :
    FilterDecoding ExecutionStateChanged :=
  decodeEvent keccak ExecutionStateChanged log

/-! ### What the decoding of a log can be -/

/-- An event of a union: the topic of its kind, and whether a lane of that type
has such events. -/
class LaneEvent (Event : Type) where
  logTopic : Keccak → Event → Bytes32
  OfLane : LaneType → Event → Prop

instance : LaneEvent CcipSendRequestedEventUnion where
  logTopic keccak
    | .evm2EvmV1_0 _ => logTopic keccak CcipSendRequestedEventV1_0
    | .evm2EvmV1_2 _ => logTopic keccak CcipSendRequestedEventV1_2
  OfLane laneType
    | .evm2EvmV1_0 _ => laneType = .evm2EvmV1_0
    | .evm2EvmV1_2 _ => laneType = .evm2EvmV1_2

instance : LaneEvent DestEventUnion where
  logTopic keccak
    | .blessed _ => logTopic keccak TaggedRootBlessedEvent
    | .blessVotesReset _ => logTopic keccak TaggedRootBlessVotesResetEvent
    | .alreadyBlessed _ => logTopic keccak AlreadyBlessedEvent
    | .voted _ => logTopic keccak VotedToBlessEvent
    | .alreadyVoted _ => logTopic keccak AlreadyVotedToBlessEvent
    | .committedV1_0 _ => logTopic keccak ReportAcceptedEventV1_0
    | .committedV1_2 _ => logTopic keccak ReportAcceptedEventV1_2
  OfLane laneType
    | .committedV1_0 _ => laneType = .evm2EvmV1_0
    | .committedV1_2 _ => laneType = .evm2EvmV1_2
    | _ => True

/-- The decoding of a log by a filter that asks for these topics. -/
inductive Dispatches {Event : Type} [LaneEvent Event] (keccak : Keccak)
    (laneType : LaneType) (logTopics : List Bytes32) (log : EVMLog) :
    Except FilterError Event → Prop where
  | empty (noTopic : log.topics.head? = none) :
      Dispatches keccak laneType logTopics log (.error .emptyTopic)
  | unknown {topic : Bytes32} (isTopic : log.topics.head? = some topic)
      (notAsked : topic ∉ logTopics) :
      Dispatches keccak laneType logTopics log
        (.error (.unknownTopic topic laneType))
  | malformed {topic : Bytes32} {error : DecodeLogError}
      (isTopic : log.topics.head? = some topic) (asked : topic ∈ logTopics) :
      Dispatches keccak laneType logTopics log (.error (.event error))
  | decoded {event : Event}
      (isTopic : log.topics.head? = some (LaneEvent.logTopic keccak event))
      (asked : LaneEvent.logTopic keccak event ∈ logTopics)
      (ofLane : LaneEvent.OfLane laneType event) :
      Dispatches keccak laneType logTopics log (.ok event)

/-- A decoding that does not panic and is one of these. -/
structure DispatchesSafely {Event : Type} [LaneEvent Event] (keccak : Keccak)
    (laneType : LaneType) (logTopics : List Bytes32) (log : EVMLog)
    (decoding : FilterDecoding Event) : Prop where
  safe : log.data.data.length < 2 ^ 63 → Returns decoding
  dispatches : ∀ result, decoding = returns result →
    Dispatches keccak laneType logTopics log result

section Dispatching

variable {keccak : Keccak} {laneType : LaneType} {logTopics : List Bytes32}
  {log : EVMLog} {topic : Bytes32}

theorem dispatches_decodeEvent {Event Union : Type} [CheckedDecodeLog Event]
    [LaneEvent Union] {build : Event → Union}
    (sameTopic : ∀ event,
      LaneEvent.logTopic keccak (build event) = logTopic keccak Event)
    (ofLane : ∀ event, LaneEvent.OfLane laneType (build event))
    (isTopic : log.topics.head? = some topic)
    (isEvent : topic = logTopic keccak Event) (asked : topic ∈ logTopics) :
    DispatchesSafely keccak laneType logTopics log
      (build <$> decodeEvent keccak Event log) := by
  subst isEvent
  constructor
  · intro fits
    obtain ⟨result, decoded, _⟩ := decodesSafely Event keccak log fits
    rw [decodeEvent, decoded]
    cases result with
    | error error => exact ⟨.error (.event error), rfl⟩
    | ok event => exact ⟨.ok (build event), rfl⟩
  · intro result decoded
    rw [decodeEvent] at decoded
    cases run : (checkedDecodeLog keccak Event log).run with
    | none =>
        rw [run] at decoded
        cases decoded
    | some outcome =>
        rw [run] at decoded
        cases outcome with
        | error error =>
            cases decoded
            exact .malformed isTopic asked
        | ok event =>
            cases decoded
            apply Dispatches.decoded
            · rw [sameTopic]
              exact isTopic
            · rw [sameTopic]
              exact asked
            · exact ofLane event

theorem dispatches_emptyTopic {Union : Type} [LaneEvent Union]
    (noTopic : log.topics.head? = none) :
    DispatchesSafely keccak laneType logTopics log
      (throw .emptyTopic : FilterDecoding Union) where
  safe _ := ⟨_, rfl⟩
  dispatches := by
    intro result thrown
    cases thrown
    exact .empty noTopic

theorem dispatches_unknownTopic {Union : Type} [LaneEvent Union]
    (isTopic : log.topics.head? = some topic) (notAsked : topic ∉ logTopics) :
    DispatchesSafely keccak laneType logTopics log
      (throw (.unknownTopic topic laneType) : FilterDecoding Union) where
  safe _ := ⟨_, rfl⟩
  dispatches := by
    intro result thrown
    cases thrown
    exact .unknown isTopic notAsked

theorem VersionedCcipSendRequestFilter.decodeLog_dispatches
    (filter : VersionedCcipSendRequestFilter)
    (log : EVMLog) :
    DispatchesSafely keccak filter.laneType (filter.logTopics keccak) log
      (filter.decodeLog keccak log) := by
  obtain ⟨laneType⟩ := filter
  unfold VersionedCcipSendRequestFilter.decodeLog
  cases isTopic : log.topics.head? with
  | none => exact dispatches_emptyTopic isTopic
  | some topic =>
      cases laneType with
      | evm2EvmV1_0 =>
          by_cases isEvent : topic = logTopic keccak CcipSendRequestedEventV1_0
          · simp only [isEvent, and_self, if_true]
            apply dispatches_decodeEvent (fun _ => rfl) (fun _ => rfl)
              isTopic isEvent
            simp [logTopics, isEvent]
          · simp only [isEvent, and_false, if_false, reduceCtorEq, false_and]
            apply dispatches_unknownTopic isTopic
            simpa [logTopics] using isEvent
      | evm2EvmV1_2 =>
          by_cases isEvent : topic = logTopic keccak CcipSendRequestedEventV1_2
          · simp only [isEvent, and_self, if_true, reduceCtorEq, false_and,
              if_false]
            apply dispatches_decodeEvent (fun _ => rfl) (fun _ => rfl)
              isTopic isEvent
            simp [logTopics, isEvent]
          · simp only [isEvent, and_false, if_false, reduceCtorEq, false_and]
            apply dispatches_unknownTopic isTopic
            simpa [logTopics] using isEvent

/-- The topics of the AFN contract are asked for on every lane. -/
theorem VersionedDestEventFilter.decodeLog_dispatches
    (filter : VersionedDestEventFilter)
    (log : EVMLog) :
    DispatchesSafely keccak filter.laneType (filter.logTopics keccak) log
      (filter.decodeLog keccak log) := by
  unfold VersionedDestEventFilter.decodeLog
  cases isTopic : log.topics.head? with
  | none => exact dispatches_emptyTopic isTopic
  | some topic =>
      simp only
      split
      · rename_i isBlessed
        apply dispatches_decodeEvent (fun _ => rfl) (fun _ => trivial)
          isTopic isBlessed
        simp [logTopics, isBlessed]
      split
      · rename_i isReset
        apply dispatches_decodeEvent (fun _ => rfl) (fun _ => trivial)
          isTopic isReset
        simp [logTopics, isReset]
      split
      · rename_i isAlreadyBlessed
        apply dispatches_decodeEvent (fun _ => rfl) (fun _ => trivial)
          isTopic isAlreadyBlessed
        simp [logTopics, isAlreadyBlessed]
      split
      · rename_i isVoted
        apply dispatches_decodeEvent (fun _ => rfl) (fun _ => trivial)
          isTopic isVoted
        simp [logTopics, isVoted]
      split
      · rename_i isAlreadyVoted
        apply dispatches_decodeEvent (fun _ => rfl) (fun _ => trivial)
          isTopic isAlreadyVoted
        simp [logTopics, isAlreadyVoted]
      split
      · rename_i isCommitted
        apply dispatches_decodeEvent (fun _ => rfl)
          (fun _ => isCommitted.2) isTopic isCommitted.1
        simp [logTopics, isCommitted]
      split
      · rename_i isCommitted
        apply dispatches_decodeEvent (fun _ => rfl)
          (fun _ => isCommitted.2) isTopic isCommitted.1
        simp [logTopics, isCommitted]
      · rename_i notBlessed notReset notAlreadyBlessed notVoted
          notAlreadyVoted notV1_0 notV1_2
        apply dispatches_unknownTopic isTopic
        cases ofLane : filter.laneType with
        | evm2EvmV1_0 =>
            have notCommitted : topic ≠ logTopic keccak
              ReportAcceptedEventV1_0 := fun isV1_0 => notV1_0 ⟨isV1_0, ofLane⟩
            simp [logTopics, ofLane, notBlessed, notReset, notAlreadyBlessed,
              notVoted, notAlreadyVoted, notCommitted]
        | evm2EvmV1_2 =>
            have notCommitted : topic ≠ logTopic keccak
              ReportAcceptedEventV1_2 := fun isV1_2 => notV1_2 ⟨isV1_2, ofLane⟩
            simp [logTopics, ofLane, notBlessed, notReset, notAlreadyBlessed,
              notVoted, notAlreadyVoted, notCommitted]

end Dispatching

/-! ### The filters of the machines -/

/-- What a machine makes of a decoding.  Its error keeps the topics of a log
that the filter does not know; `none` is a panic, which a log that fits memory
does not cause. -/
def FilterDecoding.toMachine {Event : Type} (log : EVMLog)
    (decoding : FilterDecoding Event) : Except DecodeLogError Event :=
  match decoding.run with
  | some (.ok event) => .ok event
  | some (.error (.event error)) => .error error
  | some (.error _) => .error (.unexpectedTopics log.topics)
  | none => .error (.unexpectedTopics log.topics)

@[reducible] def VersionedCcipSendRequestFilter.decoding (keccak : Keccak) :
    ContractEventFilter VersionedCcipSendRequestFilter
      CcipSendRequestedEventUnion where
  decodeLog filter log :=
    FilterDecoding.toMachine log (filter.decodeLog keccak log)

@[reducible] def VersionedDestEventFilter.decoding (keccak : Keccak) :
    ContractEventFilter VersionedDestEventFilter DestEventUnion where
  decodeLog filter log :=
    FilterDecoding.toMachine log (filter.decodeLog keccak log)

/-- An event that a machine gets belongs to its lane, and the log was one that
the filter asked for. -/
theorem DispatchesSafely.ofLane {Event : Type} [LaneEvent Event]
    {keccak : Keccak} {laneType : LaneType} {logTopics : List Bytes32}
    {log : EVMLog} {decoding : FilterDecoding Event} {event : Event}
    (safely : DispatchesSafely keccak laneType logTopics log decoding)
    (decoded : decoding.toMachine log = .ok event) :
    log.topics.head? = some (LaneEvent.logTopic keccak event) ∧
      LaneEvent.logTopic keccak event ∈ logTopics ∧
        LaneEvent.OfLane laneType event := by
  rw [FilterDecoding.toMachine] at decoded
  split at decoded
  · rename_i found run
    cases decoded
    cases safely.dispatches (.ok event) run with
    | decoded isTopic asked ofLane => exact ⟨isTopic, asked, ofLane⟩
  · cases decoded
  · cases decoded
  · cases decoded

/-- An event of the lane's type is accepted in every state. -/
theorem DestBlessState.updateWithEvent_ofLane (state : DestBlessState)
    {filter : VersionedDestEventFilter} {event : DestEventUnion}
    (ofLane : LaneEvent.OfLane filter.laneType event) :
    ∃ next, state.updateWithEvent filter event = .ok next := by
  obtain ⟨laneType⟩ := filter
  cases event with
  | committedV1_0 ev =>
      have isLane : laneType = .evm2EvmV1_0 := ofLane
      subst isLane
      exact ⟨_, rfl⟩
  | committedV1_2 ev =>
      have isLane : laneType = .evm2EvmV1_2 := ofLane
      subst isLane
      exact ⟨_, rfl⟩
  | _ => cases laneType <;> exact ⟨_, rfl⟩

end RiskManagement
