import RiskManagement.Afn.DestOffRampState

/-!
# The off-ramp anomaly detector and the reaper

A detector pass compares the message ids of the unstable off-ramp state with
the source chain, and hands the reaper the sequence numbers that the stable
state has executed.  Both loops only insert into sets, so their order does not
matter and the results are set comprehensions here.
-/

namespace RiskManagement

/-- `Local` of the source is `ofState` here. -/
inductive OffRampAnomaly where
  | ofState (anomaly : OffRampStateAnomaly)
  | falseExecution (seqNr : UInt64) (srcMessageId : Option MessageId)
      (destMessageId : MessageId)
deriving DecidableEq

/-- What the passes of a detector have found. -/
structure OffRampAnomalyDetectorState where
  anomalies : Finset OffRampAnomaly
  seqNrsWithReapableMsgIds : Finset UInt64
deriving DecidableEq

/-- What a pass reads from the source workers. -/
structure SourceView where
  stableMessageHash : UInt64 → Option Bytes32
  unstableMessageHash : UInt64 → Option Bytes32
  stableSynced : Bool
  unstableSynced : Bool

/-- What the loop body does with one entry of the unstable state. -/
inductive MessageCheck where
  | falsified (srcMessageId : Option MessageId)
  | reapable
  | notExecuted
  | skipped
deriving DecidableEq

section Pass

variable {Bits : Type} [BitSet Bits]

/-- What a pass makes of one executed message. -/
def checkMessage (source : SourceView)
    (destStableState : DestOffRampState Bits) (destSeqNr : UInt64)
    (destMessageId : MessageId) : MessageCheck :=
  match source.stableMessageHash destSeqNr with
  | some srcMessageId =>
      if srcMessageId ≠ destMessageId then
        .falsified (some srcMessageId)
      else if BitSet.contains destStableState.successfullyExecutedSeqNrs
          destSeqNr then
        .reapable
      else
        .notExecuted
  | none =>
      if source.unstableSynced ∧ source.unstableMessageHash destSeqNr = none ∧
          source.stableSynced then
        .falsified none
      else
        .skipped

/-- The anomaly that one entry adds. -/
def MessageCheck.anomalies (seqNr : UInt64) (destMessageId : MessageId) :
    MessageCheck → Finset OffRampAnomaly
  | .falsified srcMessageId =>
      {.falseExecution seqNr srcMessageId destMessageId}
  | _ => ∅

namespace OffRampAnomalyDetectorState

def default : OffRampAnomalyDetectorState where
  anomalies := ∅
  seqNrsWithReapableMsgIds := ∅

/-- The check of one sequence number of the unstable state. -/
def checkSeqNr (source : SourceView)
    (destState destStableState : DestOffRampState Bits) (seqNr : UInt64) :
    Option (MessageId × MessageCheck) :=
  (destState.messageIdBySequenceNumber.lookup seqNr).map fun destMessageId =>
    (destMessageId, checkMessage source destStableState seqNr destMessageId)

/-- The sequence numbers one pass marks as reapable. -/
def reapableSeqNrs (source : SourceView)
    (destState destStableState : DestOffRampState Bits) : Finset UInt64 :=
  destState.messageIdBySequenceNumber.keys.filter fun seqNr =>
    (checkSeqNr source destState destStableState seqNr).any fun checked =>
      checked.2 = .reapable

/-- One pass of the detector's poll loop. -/
def pass (self : OffRampAnomalyDetectorState) (source : SourceView)
    (destState destStableState : DestOffRampState Bits) :
    OffRampAnomalyDetectorState where
  anomalies :=
    self.anomalies ∪
      (destState.localAnomalies.map OffRampAnomaly.ofState).toFinset ∪
      destState.messageIdBySequenceNumber.keys.biUnion fun seqNr =>
        match checkSeqNr source destState destStableState seqNr with
        | none => ∅
        | some (destMessageId, check) => check.anomalies seqNr destMessageId
  seqNrsWithReapableMsgIds :=
    self.seqNrsWithReapableMsgIds ∪
      reapableSeqNrs source destState destStableState

theorem mem_reapableSeqNrs {source : SourceView}
    {destState destStableState : DestOffRampState Bits} {seqNr : UInt64}
    (member : seqNr ∈ reapableSeqNrs source destState destStableState) :
    BitSet.contains destStableState.successfullyExecutedSeqNrs seqNr ∧
      ∃ messageId, source.stableMessageHash seqNr = some messageId ∧
        destState.messageIdBySequenceNumber.lookup seqNr =
          some messageId := by
  unfold reapableSeqNrs checkSeqNr at member
  obtain ⟨_, checked⟩ := Finset.mem_filter.mp member
  cases found : destState.messageIdBySequenceNumber.lookup seqNr with
  | none => simp [found] at checked
  | some destMessageId =>
      have reapable : checkMessage source destStableState seqNr
          destMessageId = .reapable := by
        simpa [found] using checked
      rw [checkMessage] at reapable
      cases hash : source.stableMessageHash seqNr with
      | none =>
          simp only [hash] at reapable
          split at reapable <;> cases reapable
      | some srcMessageId =>
          simp only [hash] at reapable
          split at reapable
          · cases reapable
          · rename_i same
            split at reapable
            · rename_i executed
              refine ⟨executed, srcMessageId, rfl, ?_⟩
              rw [not_not.mp same]
            · cases reapable

end OffRampAnomalyDetectorState

/-- What the reaper works on: the detector and the stable state.  `reap` takes
the reapable numbers out of the detector and removes them from the state. -/
def reap (detector : OffRampAnomalyDetectorState)
    (destStableState : DestOffRampState Bits) :
    OffRampAnomalyDetectorState × DestOffRampState Bits :=
  ({ detector with seqNrsWithReapableMsgIds := ∅ },
    destStableState.reapMessageIds detector.seqNrsWithReapableMsgIds)

end Pass

end RiskManagement
