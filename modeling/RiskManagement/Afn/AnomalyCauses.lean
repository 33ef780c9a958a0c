import RiskManagement.Afn.OffRampAnomalyDetector
import RiskManagement.Afn.SourceBlessState

/-!
# The causes of off-ramp anomalies

An anomaly of an off-ramp goes back to executions on the destination, and one
that names a message of the source goes back to that message too.
-/

namespace RiskManagement

/-- Two executions of one message, of which the earlier one succeeded or had
another id, or an execution that is neither a success nor a failure. -/
def OffRampStateAnomaly.Cause (Executed : ExecutionStateChanged → Prop) :
    OffRampStateAnomaly → Prop
  | .doubleExecution seqNr oldMessageId newMessageId newState =>
      Executed ⟨seqNr, newMessageId, newState⟩ ∧
        ∃ earlier, Executed earlier ∧ earlier.sequenceNumber = seqNr ∧
          (earlier.state = .success ∨
            oldMessageId = some earlier.messageId ∧
              earlier.messageId ≠ newMessageId)
  | .invalidMessageState seqNr messageId state =>
      Executed ⟨seqNr, messageId, state⟩ ∧ state ≠ .success ∧
        state ≠ .failure

/-- Both states of the source are synced and hold no message with the
number. -/
structure SourceView.Lacks (source : SourceView) (seqNr : UInt64) : Prop where
  stableSynced : source.stableSynced = true
  unstableSynced : source.unstableSynced = true
  stable : source.stableMessageHash seqNr = none
  unstable : source.unstableMessageHash seqNr = none

/-- The executed message has an id that the source's message does not have, or
a number that the source has not reached. -/
def OffRampAnomaly.Cause (Executed : ExecutionStateChanged → Prop)
    (Sent : UInt64 → MessageId → Prop) (Lacking : UInt64 → Prop) :
    OffRampAnomaly → Prop
  | .ofState anomaly => anomaly.Cause Executed
  | .falseExecution seqNr srcMessageId destMessageId =>
      (∃ ev, Executed ev ∧ ev.sequenceNumber = seqNr ∧
        ev.messageId = destMessageId) ∧
      match srcMessageId with
      | some sourceId => Sent seqNr sourceId ∧ sourceId ≠ destMessageId
      | none => Lacking seqNr

theorem OffRampAnomaly.Cause.mono {Executed : ExecutionStateChanged → Prop}
    {Sent : UInt64 → MessageId → Prop} {Lacking Lacked : UInt64 → Prop}
    {anomaly : OffRampAnomaly} (cause : anomaly.Cause Executed Sent Lacking)
    (lacked : ∀ seqNr, Lacking seqNr → Lacked seqNr) :
    anomaly.Cause Executed Sent Lacked := by
  cases anomaly with
  | ofState anomaly => exact cause
  | falseExecution seqNr srcMessageId destMessageId =>
      refine ⟨cause.1, ?_⟩
      cases srcMessageId with
      | some sourceId => exact cause.2
      | none => exact lacked seqNr cause.2

section Explained

variable {Bits : Type} [BitSet Bits]

namespace DestOffRampState

/-- All that the state says was executed. -/
structure ExplainedBy (Executed : ExecutionStateChanged → Prop)
    (state : DestOffRampState Bits) : Prop where
  messageIds : ∀ seqNr messageId,
    state.messageIdBySequenceNumber.lookup seqNr = some messageId →
      ∃ ev, Executed ev ∧ ev.sequenceNumber = seqNr ∧
        ev.messageId = messageId
  successes : ∀ seqNr,
    BitSet.contains state.successfullyExecutedSeqNrs seqNr →
      ∃ ev, Executed ev ∧ ev.sequenceNumber = seqNr ∧ ev.state = .success
  anomalies : ∀ anomaly ∈ state.localAnomalies, anomaly.Cause Executed

variable {Executed : ExecutionStateChanged → Prop}
  {state next : DestOffRampState Bits} {ev : ExecutionStateChanged}

theorem explainedBy_default [LawfulBitSet Bits]
    (Executed : ExecutionStateChanged → Prop) :
    (default : DestOffRampState Bits).ExplainedBy Executed where
  messageIds := by
    intro seqNr messageId found
    simp [default] at found
  successes := by simp [default, LawfulBitSet.contains_empty]
  anomalies := by simp [default]

theorem causes_append {anomalies : List OffRampStateAnomaly}
    {last : OffRampStateAnomaly}
    (known : ∀ anomaly ∈ anomalies, anomaly.Cause Executed)
    (isLast : last.Cause Executed) :
    ∀ anomaly ∈ anomalies ++ [last], anomaly.Cause Executed := by
  intro anomaly member
  rcases List.mem_append.mp member with old | new
  · exact known anomaly old
  · rw [List.mem_singleton.mp new]
    exact isLast

/-- The event's message id, and an anomaly if it was another one. -/
theorem ExplainedBy.recordMessageId (explained : state.ExplainedBy Executed)
    (executed : Executed ev) : (state.recordMessageId ev).ExplainedBy Executed
    where
  messageIds := by
    intro seqNr messageId found
    simp only [DestOffRampState.recordMessageId] at found
    by_cases same : seqNr = ev.sequenceNumber
    · subst same
      rw [Finmap.lookup_insert, Option.some.injEq] at found
      exact ⟨ev, executed, rfl, found⟩
    · rw [Finmap.lookup_insert_of_ne _ same] at found
      exact explained.messageIds seqNr messageId found
  successes := explained.successes
  anomalies := by
    simp only [DestOffRampState.recordMessageId]
    split
    · rename_i changed
      apply causes_append explained.anomalies
      refine ⟨executed, ?_⟩
      cases found : state.messageIdBySequenceNumber.lookup
          ev.sequenceNumber with
      | none => simp [found] at changed
      | some oldMessageId =>
          obtain ⟨earlier, earlierExecuted, sameNumber, sameId⟩ :=
            explained.messageIds _ _ found
          rw [found] at changed
          refine ⟨earlier, earlierExecuted, sameNumber, .inr ?_⟩
          rw [sameId]
          exact ⟨rfl, changed⟩
    · exact explained.anomalies

theorem ExplainedBy.records [LawfulBitSet Bits]
    (explained : state.ExplainedBy Executed) (executed : Executed ev)
    {oldMessageId : Option Bytes32}
    (records : Records state oldMessageId ev next) :
    next.ExplainedBy Executed := by
  cases records with
  | again again =>
      obtain ⟨earlier, earlierExecuted, sameNumber, succeeded⟩ :=
        explained.successes _ again
      refine { explained with anomalies := ?_ }
      exact causes_append explained.anomalies
        ⟨executed, earlier, earlierExecuted, sameNumber, .inl succeeded⟩
  | failure _ _ => exact explained
  | success _ isSuccess inserted =>
      refine { explained with successes := ?_ }
      intro other isExecuted
      rcases (LawfulBitSet.contains_insert inserted other).mp isExecuted with
        same | old
      · exact ⟨ev, executed, same.symm, isSuccess⟩
      · exact explained.successes other old
  | invalid _ notSuccess notFailure =>
      refine { explained with anomalies := ?_ }
      exact causes_append explained.anomalies
        ⟨executed, notSuccess, notFailure⟩

theorem ExplainedBy.recordMaxSequenceNumber
    (explained : state.ExplainedBy Executed) (seqNr : UInt64) :
    (state.recordMaxSequenceNumber seqNr).ExplainedBy Executed := by
  unfold DestOffRampState.recordMaxSequenceNumber
  split
  · exact { explained with }
  · exact explained

theorem ExplainedBy.updateWithEvent [LawfulBitSet Bits]
    (explained : state.ExplainedBy Executed) (executed : Executed ev)
    (updated : state.updateWithEvent ev = some next) :
    next.ExplainedBy Executed := by
  obtain ⟨recorded, isRecorded, rfl⟩ := updateWithEvent_eq_some_iff.mp updated
  apply ExplainedBy.recordMaxSequenceNumber
  exact (explained.recordMessageId executed).records executed
    (recordState_records isRecorded)

theorem ExplainedBy.reapMessageIds (explained : state.ExplainedBy Executed)
    (seqNrs : Finset UInt64) :
    (state.reapMessageIds seqNrs).ExplainedBy Executed :=
  { explained with
    messageIds := by
      intro seqNr messageId found
      rw [reapMessageIds_lookup] at found
      split at found
      · cases found
      · exact explained.messageIds seqNr messageId found }

end DestOffRampState

namespace OffRampAnomalyDetectorState

/-- A falsified message shows what is wrong with the source. -/
theorem checkMessage_falsified {source : SourceView}
    {destStableState : DestOffRampState Bits} {seqNr : UInt64}
    {destMessageId : MessageId} {srcMessageId : Option MessageId}
    (checked : checkMessage source destStableState seqNr destMessageId =
      .falsified srcMessageId) :
    source.stableMessageHash seqNr = srcMessageId ∧
      match srcMessageId with
      | some sourceId => sourceId ≠ destMessageId
      | none => source.Lacks seqNr := by
  rw [checkMessage] at checked
  cases hash : source.stableMessageHash seqNr with
  | none =>
      simp only [hash] at checked
      split at checked
      · rename_i synced
        cases checked
        exact ⟨rfl, synced.2.2, synced.1, hash, synced.2.1⟩
      · cases checked
  | some foundId =>
      simp only [hash] at checked
      split at checked
      · rename_i different
        cases checked
        exact ⟨rfl, different⟩
      · split at checked
        · cases checked
        · cases checked

/-- A pass over explained states, against a source that only has sent
messages, finds anomalies that have a cause. -/
theorem pass_causes {Executed : ExecutionStateChanged → Prop}
    {Sent : UInt64 → MessageId → Prop} {Lacking : UInt64 → Prop}
    {self : OffRampAnomalyDetectorState} {source : SourceView}
    {destState destStableState : DestOffRampState Bits}
    (known : ∀ anomaly ∈ self.anomalies,
      anomaly.Cause Executed Sent Lacking)
    (sent : ∀ seqNr messageId,
      source.stableMessageHash seqNr = some messageId →
        Sent seqNr messageId)
    (lacking : ∀ seqNr, source.Lacks seqNr → Lacking seqNr)
    (explained : destState.ExplainedBy Executed) :
    ∀ anomaly ∈ (self.pass source destState destStableState).anomalies,
      anomaly.Cause Executed Sent Lacking := by
  intro anomaly member
  simp only [pass, Finset.mem_union, List.mem_toFinset, List.mem_map,
    Finset.mem_biUnion] at member
  rcases member with (old | ⟨ofState, isLocal, rfl⟩) | ⟨seqNr, _, found⟩
  · exact known anomaly old
  · exact explained.anomalies ofState isLocal
  · rw [checkSeqNr] at found
    cases isId : destState.messageIdBySequenceNumber.lookup seqNr with
    | none => simp [isId] at found
    | some destMessageId =>
        have executed := explained.messageIds seqNr destMessageId isId
        simp only [isId, Option.map_some] at found
        cases checked : checkMessage source destStableState seqNr
            destMessageId with
        | falsified srcMessageId =>
            simp only [checked, MessageCheck.anomalies,
              Finset.mem_singleton] at found
            subst found
            obtain ⟨hash, shown⟩ := checkMessage_falsified checked
            refine ⟨executed, ?_⟩
            cases srcMessageId with
            | some sourceId => exact ⟨sent seqNr sourceId hash, shown⟩
            | none => exact lacking seqNr shown
        | reapable => simp [checked, MessageCheck.anomalies] at found
        | notExecuted => simp [checked, MessageCheck.anomalies] at found
        | skipped => simp [checked, MessageCheck.anomalies] at found

end OffRampAnomalyDetectorState

end Explained

end RiskManagement
