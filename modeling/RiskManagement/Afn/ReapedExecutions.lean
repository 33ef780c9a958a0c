import RiskManagement.Afn.OffRampAnomalyDetector

/-!
# What the reaper discards

The stable state, the published unstable state, the detector and the reaper
take turns.  A detector pass reads the message id from the unstable state and
the executed flag from the stable one; where the two states disagree about the
message id it can mark an execution that was never compared with the source.
-/

namespace RiskManagement

def OffRampStateAnomaly.seqNr : OffRampStateAnomaly → UInt64
  | .doubleExecution seqNr _ _ _ => seqNr
  | .invalidMessageState seqNr _ _ => seqNr

def OffRampAnomaly.anomalySeqNr : OffRampAnomaly → UInt64
  | .ofState anomaly => anomaly.seqNr
  | .falseExecution seqNr _ _ => seqNr

/-- The shared states, with the events the stable one was given and the
sequence numbers whose message id a reap removed. -/
structure ReapSystem (Bits : Type) where
  stable : DestOffRampState Bits
  unstable : DestOffRampState Bits
  detector : OffRampAnomalyDetectorState
  applied : List ExecutionStateChanged
  reaped : Finset UInt64
deriving DecidableEq

/-- The atomic steps of the four parties. -/
inductive ReapStep where
  | applyEvent (ev : ExecutionStateChanged)
  | republish (unstableEvents : List ExecutionStateChanged)
  | detect (source : SourceView)
  | reap

namespace ReapSystem

variable {Bits : Type} [BitSet Bits]

/-- The system before the first event. -/
def initial : ReapSystem Bits where
  stable := .default
  unstable := .default
  detector := .default
  applied := []
  reaped := ∅

/-- `none` where an event panics. -/
def step (system : ReapSystem Bits) : ReapStep → Option (ReapSystem Bits)
  | .applyEvent ev =>
      (system.stable.updateWithEvent ev).map fun stable =>
        { system with
          stable := stable
          applied := system.applied ++ [ev] }
  | .republish unstableEvents =>
      (unstableEvents.foldlM DestOffRampState.updateWithEvent
        system.stable).map fun unstable => { system with unstable := unstable }
  | .detect source =>
      some { system with
        detector := system.detector.pass source system.unstable system.stable }
  | .reap =>
      some { system with
        detector := (RiskManagement.reap system.detector system.stable).1
        stable := (RiskManagement.reap system.detector system.stable).2
        reaped := system.reaped ∪
          (system.detector.seqNrsWithReapableMsgIds ∩
            system.stable.messageIdBySequenceNumber.keys) }

/-- The system after several steps, unless one was not possible. -/
def run (system : ReapSystem Bits) (steps : List ReapStep) :
    Option (ReapSystem Bits) :=
  steps.foldlM step system

/-- An anomaly of the sequence number is recorded somewhere. -/
def Reported (system : ReapSystem Bits) (seqNr : UInt64) : Prop :=
  (∃ anomaly ∈ system.detector.anomalies, anomaly.anomalySeqNr = seqNr) ∨
    (∃ anomaly ∈ system.stable.localAnomalies, anomaly.seqNr = seqNr) ∨
    ∃ anomaly ∈ system.unstable.localAnomalies, anomaly.seqNr = seqNr

/-- Every event of the sequence number carried the source's hash. -/
def AllFromSource (system : ReapSystem Bits) (sourceHash : UInt64 → Bytes32)
    (seqNr : UInt64) : Prop :=
  ∀ ev ∈ system.applied, ev.sequenceNumber = seqNr →
    ev.messageId = sourceHash seqNr

/-- No reaped execution went unchecked. -/
def ReapedAreChecked (system : ReapSystem Bits)
    (sourceHash : UInt64 → Bytes32) : Prop :=
  ∀ seqNr ∈ system.reaped,
    system.AllFromSource sourceHash seqNr ∨ system.Reported seqNr

end ReapSystem

/-- A view of the one fixed source map; hashes may be missing from it. -/
def SourceView.Of (source : SourceView) (sourceHash : UInt64 → Bytes32) :
    Prop :=
  ∀ seqNr messageId, source.stableMessageHash seqNr = some messageId →
    messageId = sourceHash seqNr

namespace ReapSystem

variable {Bits : Type} [BitSet Bits]

/-- The stable state has recorded no anomaly of the sequence number. -/
def Clean (system : ReapSystem Bits) (seqNr : UInt64) : Prop :=
  ∀ anomaly ∈ system.stable.localAnomalies, anomaly.seqNr ≠ seqNr

/-- Where the unstable state shows the source's hash of an executed message,
the stable state shows no other one, unless it has an anomaly of it. -/
def StableAgrees (system : ReapSystem Bits) (source : SourceView) : Prop :=
  ∀ seqNr messageId stableMessageId, system.Clean seqNr →
    source.stableMessageHash seqNr = some messageId →
    system.unstable.messageIdBySequenceNumber.lookup seqNr = some messageId →
    BitSet.contains system.stable.successfullyExecutedSeqNrs seqNr →
    system.stable.messageIdBySequenceNumber.lookup seqNr =
      some stableMessageId →
      stableMessageId = messageId

/-- The steps of a run whose detector passes see agreeing states. -/
inductive Allowed (system : ReapSystem Bits) (sourceHash : UInt64 → Bytes32) :
    ReapStep → Prop where
  | applyEvent (ev : ExecutionStateChanged) :
      Allowed system sourceHash (.applyEvent ev)
  | republish (unstableEvents : List ExecutionStateChanged) :
      Allowed system sourceHash (.republish unstableEvents)
  | detect {source : SourceView} :
      source.Of sourceHash → system.StableAgrees source →
      Allowed system sourceHash (.detect source)
  | reap : Allowed system sourceHash .reap

/-- The states of such runs. -/
inductive Reachable (sourceHash : UInt64 → Bytes32) :
    ReapSystem Bits → Prop where
  | initial : Reachable sourceHash initial
  | step {system after : ReapSystem Bits} {next : ReapStep} :
      Reachable sourceHash system → system.Allowed sourceHash next →
      system.step next = some after → Reachable sourceHash after

/-- What the stable state still knows about each sequence number without an
anomaly. -/
structure Invariant (system : ReapSystem Bits) (sourceHash : UInt64 → Bytes32) :
    Prop where
  reaped_executed : ∀ seqNr ∈ system.reaped,
    BitSet.contains system.stable.successfullyExecutedSeqNrs seqNr
  reapable_executed : ∀ seqNr ∈ system.detector.seqNrsWithReapableMsgIds,
    BitSet.contains system.stable.successfullyExecutedSeqNrs seqNr
  kept : ∀ seqNr, system.Clean seqNr → seqNr ∉ system.reaped →
    ∀ ev ∈ system.applied, ev.sequenceNumber = seqNr →
      system.stable.messageIdBySequenceNumber.lookup seqNr =
        some ev.messageId
  reaped_checked : ∀ seqNr, system.Clean seqNr → seqNr ∈ system.reaped →
    system.AllFromSource sourceHash seqNr
  reapable_checked : ∀ seqNr, system.Clean seqNr →
    seqNr ∈ system.detector.seqNrsWithReapableMsgIds →
      system.AllFromSource sourceHash seqNr

theorem initial_invariant (sourceHash : UInt64 → Bytes32) :
    (initial : ReapSystem Bits).Invariant sourceHash := by
  constructor
  · intro seqNr member
    simp [initial] at member
  · intro seqNr member
    simp [initial, OffRampAnomalyDetectorState.default] at member
  · intro seqNr _ _ ev member
    simp [initial] at member
  · intro seqNr _ member
    simp [initial] at member
  · intro seqNr _ member
    simp [initial, OffRampAnomalyDetectorState.default] at member

section Step

variable [LawfulBitSet Bits] {system after : ReapSystem Bits}
  {sourceHash : UInt64 → Bytes32}

/-! ### An event -/

/-- What an event leaves, when its update returns. -/
structure Applied (system : ReapSystem Bits) (ev : ExecutionStateChanged)
    (after : ReapSystem Bits) : Prop where
  updated : system.stable.updateWithEvent ev = some after.stable
  detector : after.detector = system.detector
  applied : after.applied = system.applied ++ [ev]
  reaped : after.reaped = system.reaped

omit [LawfulBitSet Bits] in
theorem step_applyEvent {ev : ExecutionStateChanged}
    (stepped : system.step (.applyEvent ev) = some after) :
    system.Applied ev after := by
  obtain ⟨stable, updated, rfl⟩ := Option.map_eq_some_iff.mp stepped
  exact ⟨updated, rfl, rfl, rfl⟩

section Event

variable {ev : ExecutionStateChanged} {seqNr : UInt64}

omit [LawfulBitSet Bits] in
theorem Applied.clean (applied : system.Applied ev after)
    (clean : after.Clean seqNr) : system.Clean seqNr := by
  intro anomaly member
  apply clean
  exact DestOffRampState.localAnomalies_subset_updateWithEvent
    applied.updated member

theorem Applied.executed (applied : system.Applied ev after)
    (executed : BitSet.contains system.stable.successfullyExecutedSeqNrs
      seqNr) :
    BitSet.contains after.stable.successfullyExecutedSeqNrs seqNr :=
  (DestOffRampState.contains_updateWithEvent applied.updated seqNr).mpr
    (.inl executed)

omit [LawfulBitSet Bits] in
/-- An event that leaves no anomaly is the first success, and carries the
recorded message id. -/
theorem Applied.first (applied : system.Applied ev after)
    (clean : after.Clean ev.sequenceNumber) :
    ¬BitSet.contains system.stable.successfullyExecutedSeqNrs
        ev.sequenceNumber ∧
      ∀ old, system.stable.messageIdBySequenceNumber.lookup ev.sequenceNumber =
        some old → old = ev.messageId := by
  constructor
  · intro executed
    exact clean _ (DestOffRampState.doubleExecution_mem_of_executed
      applied.updated executed) rfl
  · intro old found
    by_contra changed
    exact clean _ (DestOffRampState.doubleExecution_mem_of_changed
      applied.updated found changed) rfl

omit [LawfulBitSet Bits] in
/-- A checked sequence number stays checked: a new event for it would be an
anomaly. -/
theorem Applied.allFromSource (applied : system.Applied ev after)
    (all : system.AllFromSource sourceHash seqNr)
    (executed : BitSet.contains system.stable.successfullyExecutedSeqNrs
      seqNr)
    (clean : after.Clean seqNr) : after.AllFromSource sourceHash seqNr := by
  intro other member same
  rw [applied.applied] at member
  rcases List.mem_append.mp member with old | new
  · exact all other old same
  · rw [List.mem_singleton.mp new] at same
    subst same
    exact absurd executed (applied.first clean).1

theorem Invariant.applyEvent (invariant : system.Invariant sourceHash)
    (applied : system.Applied ev after) : after.Invariant sourceHash := by
  constructor
  · intro seqNr member
    rw [applied.reaped] at member
    exact applied.executed (invariant.reaped_executed seqNr member)
  · intro seqNr member
    rw [applied.detector] at member
    exact applied.executed (invariant.reapable_executed seqNr member)
  · intro seqNr clean notReaped other member same
    rw [applied.reaped] at notReaped
    have kept := invariant.kept seqNr (applied.clean clean) notReaped
    rw [DestOffRampState.updateWithEvent_messageIdBySequenceNumber
      applied.updated]
    rw [applied.applied] at member
    rcases List.mem_append.mp member with old | new
    · have recorded := kept other old same
      by_cases isNew : seqNr = ev.sequenceNumber
      · subst isNew
        rw [Finmap.lookup_insert, (applied.first clean).2 _ recorded]
      · rw [Finmap.lookup_insert_of_ne _ isNew]
        exact recorded
    · rw [List.mem_singleton.mp new] at same ⊢
      subst same
      exact Finmap.lookup_insert _
  · intro seqNr clean member
    rw [applied.reaped] at member
    apply applied.allFromSource
    · exact invariant.reaped_checked seqNr (applied.clean clean) member
    · exact invariant.reaped_executed seqNr member
    · exact clean
  · intro seqNr clean member
    rw [applied.detector] at member
    apply applied.allFromSource
    · exact invariant.reapable_checked seqNr (applied.clean clean) member
    · exact invariant.reapable_executed seqNr member
    · exact clean

end Event

/-! ### The other steps -/

omit [LawfulBitSet Bits] in
theorem Invariant.detect (invariant : system.Invariant sourceHash)
    {source : SourceView} (ofSource : source.Of sourceHash)
    (agrees : system.StableAgrees source)
    (stepped : system.step (.detect source) = some after) :
    after.Invariant sourceHash := by
  cases stepped
  constructor
  · exact invariant.reaped_executed
  · intro seqNr member
    rcases Finset.mem_union.mp member with old | new
    · exact invariant.reapable_executed seqNr old
    · exact (OffRampAnomalyDetectorState.mem_reapableSeqNrs new).1
  · exact invariant.kept
  · exact invariant.reaped_checked
  · intro seqNr clean member
    rcases Finset.mem_union.mp member with old | new
    · exact invariant.reapable_checked seqNr clean old
    · obtain ⟨executed, messageId, sourceHas, unstableHas⟩ :=
        OffRampAnomalyDetectorState.mem_reapableSeqNrs new
      by_cases isReaped : seqNr ∈ system.reaped
      · exact invariant.reaped_checked seqNr clean isReaped
      · intro ev applied same
        have recorded :=
          invariant.kept seqNr clean isReaped ev applied same
        have equal := agrees seqNr messageId ev.messageId clean
          sourceHas unstableHas executed recorded
        rw [equal]
        exact ofSource seqNr messageId sourceHas

omit [LawfulBitSet Bits] in
theorem Invariant.reap (invariant : system.Invariant sourceHash)
    (stepped : system.step .reap = some after) :
    after.Invariant sourceHash := by
  have newlyReaped : ∀ seqNr ∈ after.reaped,
      seqNr ∈ system.reaped ∨
        seqNr ∈ system.detector.seqNrsWithReapableMsgIds := by
    cases stepped
    intro seqNr member
    rcases Finset.mem_union.mp member with old | new
    · exact .inl old
    · exact .inr (Finset.mem_inter.mp new).1
  cases stepped
  constructor
  · intro seqNr member
    rcases newlyReaped seqNr member with old | new
    · exact invariant.reaped_executed seqNr old
    · exact invariant.reapable_executed seqNr new
  · intro seqNr member
    simp [RiskManagement.reap] at member
  · intro seqNr clean notReaped ev applied same
    have recorded := invariant.kept seqNr clean
      (fun old => notReaped (Finset.mem_union_left _ old)) ev applied same
    have notReapable :
        seqNr ∉ system.detector.seqNrsWithReapableMsgIds := by
      intro reapable
      apply notReaped
      apply Finset.mem_union_right
      apply Finset.mem_inter.mpr
      refine ⟨reapable, ?_⟩
      rw [Finmap.mem_keys]
      exact Finmap.mem_of_lookup_eq_some recorded
    change (system.stable.reapMessageIds _).messageIdBySequenceNumber.lookup
      seqNr = some ev.messageId
    rw [DestOffRampState.reapMessageIds_lookup, if_neg notReapable]
    exact recorded
  · intro seqNr clean member
    rcases newlyReaped seqNr member with old | new
    · exact invariant.reaped_checked seqNr clean old
    · exact invariant.reapable_checked seqNr clean new
  · intro seqNr _ member
    simp [RiskManagement.reap] at member

omit [LawfulBitSet Bits] in
theorem Invariant.republish (invariant : system.Invariant sourceHash)
    {unstableEvents : List ExecutionStateChanged}
    (stepped : system.step (.republish unstableEvents) = some after) :
    after.Invariant sourceHash := by
  obtain ⟨unstable, _, rfl⟩ := Option.map_eq_some_iff.mp stepped
  exact ⟨invariant.reaped_executed, invariant.reapable_executed,
    invariant.kept, invariant.reaped_checked, invariant.reapable_checked⟩

theorem Invariant.step (invariant : system.Invariant sourceHash)
    {next : ReapStep} (allowed : system.Allowed sourceHash next)
    (stepped : system.step next = some after) :
    after.Invariant sourceHash := by
  cases allowed with
  | applyEvent ev => exact invariant.applyEvent (step_applyEvent stepped)
  | republish unstableEvents => exact invariant.republish stepped
  | detect ofSource agrees => exact invariant.detect ofSource agrees stepped
  | reap => exact invariant.reap stepped

theorem Reachable.invariant (reachable : Reachable sourceHash system) :
    system.Invariant sourceHash := by
  induction reachable with
  | initial => exact initial_invariant sourceHash
  | step _ allowed stepped induction => exact induction.step allowed stepped

end Step

/-- While detector passes see states that agree on the executed messages, the
reaper only discards executions that match the source or are reported. -/
theorem reaped_are_checked [LawfulBitSet Bits]
    {sourceHash : UInt64 → Bytes32} {system : ReapSystem Bits}
    (reachable : Reachable sourceHash system) :
    system.ReapedAreChecked sourceHash := by
  intro seqNr member
  by_cases clean : system.Clean seqNr
  · exact .inl (reachable.invariant.reaped_checked seqNr clean member)
  · rw [Clean] at clean
    push Not at clean
    obtain ⟨anomaly, recorded, same⟩ := clean
    exact .inr (.inr (.inl ⟨anomaly, recorded, same⟩))

end ReapSystem

/-- A successful execution of sequence number 1. -/
def firstExecution (messageId : MessageId) : ExecutionStateChanged where
  sequenceNumber := 1
  messageId := messageId
  state := .success

/-- A source on which every message has one hash. -/
def constantSource (messageId : MessageId) : SourceView where
  stableMessageHash := fun _ => some messageId
  unstableMessageHash := fun _ => some messageId
  stableSynced := true
  unstableSynced := true

/-- The message id of the source, and another one. -/
def sourceMessage : MessageId := SizedBytes.replicate 32 1

def forgedMessage : MessageId := SizedBytes.replicate 32 2

/-- The stable state with the one executed message. -/
def firstExecuted : DestOffRampState SmallBitSet :=
  ⟨⟨{1}⟩, [], (∅ : Finmap _).insert 1 sourceMessage, some 1⟩

/-- The system with that stable state. -/
def executedSystem (unstable : DestOffRampState SmallBitSet)
    (detector : OffRampAnomalyDetectorState) : ReapSystem SmallBitSet where
  stable := firstExecuted
  unstable := unstable
  detector := detector
  applied := [firstExecution sourceMessage]
  reaped := ∅

/-- The detector has checked the one executed message. -/
def checkedExecution : ReapSystem SmallBitSet :=
  executedSystem firstExecuted
    (OffRampAnomalyDetectorState.default.pass (constantSource sourceMessage)
      firstExecuted firstExecuted)

theorem checkedExecution_reachable :
    ReapSystem.Reachable (fun _ => sourceMessage) checkedExecution := by
  have applied : ReapSystem.Reachable (fun _ => sourceMessage)
      (executedSystem .default .default) := by
    apply ReapSystem.Reachable.step .initial
      (.applyEvent (firstExecution sourceMessage))
    decide +kernel
  have republished : ReapSystem.Reachable (fun _ => sourceMessage)
      (executedSystem firstExecuted .default) := by
    apply ReapSystem.Reachable.step applied (.republish [])
    rfl
  have agrees : (executedSystem firstExecuted .default).Allowed
      (fun _ => sourceMessage) (.detect (constantSource sourceMessage)) := by
    apply ReapSystem.Allowed.detect
    · intro seqNr found sourceHas
      exact (Option.some.inj sourceHas).symm
    · intro seqNr found stableFound _ sourceHas unstableHas _ stableHas
      -- The published state is a copy of the stable one.
      have copied : some stableFound = some found :=
        stableHas.symm.trans unstableHas
      exact Option.some.inj copied
  exact .step republished agrees rfl

/-- The reap of the checked execution. -/
def reapedExecution : ReapSystem SmallBitSet :=
  { executedSystem firstExecuted .default with
    stable := { firstExecuted with messageIdBySequenceNumber := ∅ }
    reaped := {1} }

theorem reaped_are_checked_firstExecution :
    1 ∈ reapedExecution.reaped ∧
      reapedExecution.ReapedAreChecked fun _ => sourceMessage := by
  constructor
  · decide +kernel
  · apply ReapSystem.reaped_are_checked
    apply ReapSystem.Reachable.step checkedExecution_reachable .reap
    decide +kernel

/-- The unstable fork executes the source's message, the stable chain a forged
one, and the pass runs before the unstable state is published again. -/
def forgedExecutionSteps : List ReapStep :=
  [.republish [firstExecution sourceMessage],
    .applyEvent (firstExecution forgedMessage),
    .detect (constantSource sourceMessage),
    .reap,
    .republish [],
    .detect (constantSource sourceMessage)]

/-- Nothing is left of the forged execution but its flag. -/
def forgedExecution : ReapSystem SmallBitSet where
  stable := { firstExecuted with messageIdBySequenceNumber := ∅ }
  unstable := { firstExecuted with messageIdBySequenceNumber := ∅ }
  detector := .default
  applied := [firstExecution forgedMessage]
  reaped := {1}

/-- The forged execution is reaped and nothing reports it. -/
theorem reaper_discards_forged_execution :
    (∀ step ∈ forgedExecutionSteps, ∀ source, step = .detect source →
        source.Of fun _ => sourceMessage) ∧
      ReapSystem.initial.run forgedExecutionSteps = some forgedExecution ∧
      1 ∈ forgedExecution.reaped ∧
      ¬forgedExecution.ReapedAreChecked fun _ => sourceMessage := by
  have reaped : 1 ∈ forgedExecution.reaped := by decide +kernel
  refine ⟨?_, by decide +kernel, reaped, ?_⟩
  · intro step member source isDetect seqNr found sourceHas
    subst isDetect
    simp only [forgedExecutionSteps, List.mem_cons, reduceCtorEq,
      ReapStep.detect.injEq, List.not_mem_nil, or_false, false_or,
      or_self] at member
    subst member
    exact (Option.some.inj sourceHas).symm
  · intro checked
    rcases checked 1 reaped with all | reported
    · have forged := all (firstExecution forgedMessage)
        (List.mem_singleton_self _) rfl
      revert forged
      decide +kernel
    · simp [ReapSystem.Reported, forgedExecution, firstExecuted,
        OffRampAnomalyDetectorState.default] at reported

end RiskManagement
