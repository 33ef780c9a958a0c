import Mathlib.Data.Finmap
import RiskManagement.Library.BitSet
import RiskManagement.Afn.ContractEventStateMachine
import RiskManagement.Afn.Evm2EvmOffRamp
import RiskManagement.Afn.LogChain

/-!
# The replayed state of an off-ramp

Which sequence numbers were executed, with which message id, and the anomalies
that the events of the destination chain show by themselves.  An event of a
sequence number that the bit set cannot grow to makes the update panic.
-/

namespace RiskManagement

/-- What the events of an off-ramp alone show to be wrong. -/
inductive OffRampStateAnomaly where
  | doubleExecution (seqNr : UInt64) (oldMessageId : Option Bytes32)
      (newMessageId : Bytes32) (newState : MessageExecutionState)
  | invalidMessageState (seqNr : UInt64) (messageId : Bytes32)
      (state : MessageExecutionState)
deriving DecidableEq

/-- The unit struct of the source; it carries the event's topic here. -/
structure SimpleExecutionStateChangedFilter where
  logTopic : Bytes32
deriving DecidableEq

def SimpleExecutionStateChangedFilter.logTopics
    (filter : SimpleExecutionStateChangedFilter) : List Bytes32 :=
  [filter.logTopic]

instance : ContractEventFilter SimpleExecutionStateChangedFilter
    ExecutionStateChanged where
  decodeLog filter log := decodeLog ExecutionStateChanged filter.logTopic log

/-- What the executions that were replayed so far leave behind. -/
structure DestOffRampState (Bits : Type) where
  successfullyExecutedSeqNrs : Bits
  localAnomalies : List OffRampStateAnomaly
  messageIdBySequenceNumber : Finmap fun _ : UInt64 => Bytes32
  maxSequenceNumber : Option UInt64
deriving DecidableEq

namespace DestOffRampState

variable {Bits : Type}

def default [BitSet Bits] : DestOffRampState Bits where
  successfullyExecutedSeqNrs := BitSet.empty
  localAnomalies := []
  messageIdBySequenceNumber := ∅
  maxSequenceNumber := none

/-- Removing keys from a message id map. -/
def eraseAll (seqNrs : Multiset UInt64)
    (messageIds : Finmap fun _ : UInt64 => Bytes32) :
    Finmap fun _ : UInt64 => Bytes32 :=
  have : LeftCommutative fun (seqNr : UInt64)
      (messageIds : Finmap fun _ : UInt64 => Bytes32) =>
        messageIds.erase seqNr :=
    ⟨fun _ _ _ => Finmap.erase_erase⟩
  seqNrs.foldr (fun seqNr messageIds => messageIds.erase seqNr) messageIds

/-- The numbers come from a hash set, so in no particular order. -/
def reapMessageIds (self : DestOffRampState Bits) (seqNrs : Finset UInt64) :
    DestOffRampState Bits :=
  { self with
    messageIdBySequenceNumber :=
      eraseAll seqNrs.val self.messageIdBySequenceNumber }

/-- The insertion of the message id, and the anomaly of a changed one. -/
def recordMessageId (self : DestOffRampState Bits)
    (ev : ExecutionStateChanged) : DestOffRampState Bits :=
  let oldMessageId := self.messageIdBySequenceNumber.lookup ev.sequenceNumber
  { self with
    messageIdBySequenceNumber :=
      self.messageIdBySequenceNumber.insert ev.sequenceNumber ev.messageId
    localAnomalies :=
      if oldMessageId.getD ev.messageId ≠ ev.messageId then
        self.localAnomalies ++ [.doubleExecution ev.sequenceNumber
          oldMessageId ev.messageId ev.state]
      else
        self.localAnomalies }

/-- The `match` on the executed flag and the new state. -/
def recordState [BitSet Bits] (self : DestOffRampState Bits)
    (oldMessageId : Option Bytes32) (ev : ExecutionStateChanged) :
    Option (DestOffRampState Bits) :=
  if BitSet.contains self.successfullyExecutedSeqNrs ev.sequenceNumber then
    some { self with
      localAnomalies := self.localAnomalies ++ [.doubleExecution
        ev.sequenceNumber oldMessageId ev.messageId ev.state] }
  else
    match ev.state with
    | .failure => some self
    | .success =>
        (BitSet.insert self.successfullyExecutedSeqNrs
          ev.sequenceNumber).map fun inserted =>
            { self with successfullyExecutedSeqNrs := inserted }
    | state =>
        some { self with
          localAnomalies := self.localAnomalies ++ [.invalidMessageState
            ev.sequenceNumber ev.messageId state] }

/-- The largest number that was executed. -/
def recordMaxSequenceNumber (self : DestOffRampState Bits) (seqNr : UInt64) :
    DestOffRampState Bits :=
  if self.maxSequenceNumber.getD 0 ≤ seqNr then
    { self with maxSequenceNumber := some seqNr }
  else
    self

/-- `update_with_event`, which has no error on this state; `none` is the panic
of the bit set. -/
def updateWithEvent [BitSet Bits] (self : DestOffRampState Bits)
    (ev : ExecutionStateChanged) : Option (DestOffRampState Bits) :=
  let oldMessageId := self.messageIdBySequenceNumber.lookup ev.sequenceNumber
  ((self.recordMessageId ev).recordState oldMessageId ev).map
    fun recorded => recorded.recordMaxSequenceNumber ev.sequenceNumber

/-! ### What one event changes -/

theorem recordMaxSequenceNumber_messageIdBySequenceNumber
    (self : DestOffRampState Bits) (seqNr : UInt64) :
    (self.recordMaxSequenceNumber seqNr).messageIdBySequenceNumber =
      self.messageIdBySequenceNumber := by
  rw [recordMaxSequenceNumber]
  split <;> rfl

theorem recordMaxSequenceNumber_localAnomalies
    (self : DestOffRampState Bits) (seqNr : UInt64) :
    (self.recordMaxSequenceNumber seqNr).localAnomalies =
      self.localAnomalies := by
  rw [recordMaxSequenceNumber]
  split <;> rfl

theorem recordMaxSequenceNumber_successfullyExecutedSeqNrs
    (self : DestOffRampState Bits) (seqNr : UInt64) :
    (self.recordMaxSequenceNumber seqNr).successfullyExecutedSeqNrs =
      self.successfullyExecutedSeqNrs := by
  rw [recordMaxSequenceNumber]
  split <;> rfl

theorem localAnomalies_subset_recordMessageId (self : DestOffRampState Bits)
    (ev : ExecutionStateChanged) :
    self.localAnomalies ⊆ (self.recordMessageId ev).localAnomalies := by
  rw [recordMessageId]
  simp only
  split
  · exact List.subset_append_left _ _
  · exact List.Subset.refl _

section Event

variable [BitSet Bits] {self next : DestOffRampState Bits}
  {ev : ExecutionStateChanged} {oldMessageId : Option Bytes32}

/-- All that the `match` can do, one constructor for each arm. -/
inductive Records (self : DestOffRampState Bits)
    (oldMessageId : Option Bytes32) (ev : ExecutionStateChanged) :
    DestOffRampState Bits → Prop where
  | again :
      BitSet.contains self.successfullyExecutedSeqNrs ev.sequenceNumber →
      Records self oldMessageId ev { self with
        localAnomalies := self.localAnomalies ++ [.doubleExecution
          ev.sequenceNumber oldMessageId ev.messageId ev.state] }
  | failure :
      ¬BitSet.contains self.successfullyExecutedSeqNrs ev.sequenceNumber →
      ev.state = .failure → Records self oldMessageId ev self
  | success {inserted : Bits} :
      ¬BitSet.contains self.successfullyExecutedSeqNrs ev.sequenceNumber →
      ev.state = .success →
      BitSet.insert self.successfullyExecutedSeqNrs ev.sequenceNumber =
        some inserted →
      Records self oldMessageId ev
        { self with successfullyExecutedSeqNrs := inserted }
  | invalid :
      ¬BitSet.contains self.successfullyExecutedSeqNrs ev.sequenceNumber →
      ev.state ≠ .success → ev.state ≠ .failure →
      Records self oldMessageId ev { self with
        localAnomalies := self.localAnomalies ++ [.invalidMessageState
          ev.sequenceNumber ev.messageId ev.state] }

theorem recordState_records
    (recorded : self.recordState oldMessageId ev = some next) :
    Records self oldMessageId ev next := by
  rw [recordState] at recorded
  split at recorded
  · rename_i executed
    cases recorded
    exact .again executed
  · rename_i notExecuted
    cases isState : ev.state with
    | failure =>
        rw [isState] at recorded
        cases recorded
        exact .failure notExecuted isState
    | success =>
        simp only [isState, Option.map_eq_some_iff] at recorded
        obtain ⟨inserted, isInserted, rfl⟩ := recorded
        exact .success notExecuted isState isInserted
    | untouched =>
        simp only [isState] at recorded
        cases recorded
        rw [← isState]
        exact .invalid notExecuted (by simp [isState]) (by simp [isState])
    | inProgress =>
        simp only [isState] at recorded
        cases recorded
        rw [← isState]
        exact .invalid notExecuted (by simp [isState]) (by simp [isState])

theorem updateWithEvent_eq_some_iff :
    self.updateWithEvent ev = some next ↔
      ∃ recorded, (self.recordMessageId ev).recordState
          (self.messageIdBySequenceNumber.lookup ev.sequenceNumber) ev =
            some recorded ∧
        recorded.recordMaxSequenceNumber ev.sequenceNumber = next := by
  rw [updateWithEvent]
  exact Option.map_eq_some_iff

theorem Records.messageIdBySequenceNumber
    (records : Records self oldMessageId ev next) :
    next.messageIdBySequenceNumber = self.messageIdBySequenceNumber := by
  cases records <;> rfl

theorem updateWithEvent_messageIdBySequenceNumber
    (updated : self.updateWithEvent ev = some next) :
    next.messageIdBySequenceNumber =
      self.messageIdBySequenceNumber.insert ev.sequenceNumber
        ev.messageId := by
  obtain ⟨recorded, isRecorded, rfl⟩ := updateWithEvent_eq_some_iff.mp updated
  rw [recordMaxSequenceNumber_messageIdBySequenceNumber,
    (recordState_records isRecorded).messageIdBySequenceNumber]
  rfl

/-- What is executed after an event was so before or is what it reports. -/
theorem Records.contains_iff [LawfulBitSet Bits]
    (records : Records self oldMessageId ev next) (seqNr : UInt64) :
    BitSet.contains next.successfullyExecutedSeqNrs seqNr = true ↔
      BitSet.contains self.successfullyExecutedSeqNrs seqNr = true ∨
        ev.sequenceNumber = seqNr ∧ ev.state = .success := by
  cases records with
  | again executed =>
      constructor
      · exact .inl
      · rintro (before | ⟨rfl, _⟩)
        · exact before
        · exact executed
  | failure _ isFailure => simp [isFailure]
  | success _ isSuccess inserted =>
      rw [LawfulBitSet.contains_insert inserted]
      constructor
      · rintro (rfl | before)
        · exact .inr ⟨rfl, isSuccess⟩
        · exact .inl before
      · rintro (before | ⟨rfl, _⟩)
        · exact .inr before
        · exact .inl rfl
  | invalid _ notSuccess _ => simp [notSuccess]

theorem contains_updateWithEvent [LawfulBitSet Bits]
    (updated : self.updateWithEvent ev = some next) (seqNr : UInt64) :
    BitSet.contains next.successfullyExecutedSeqNrs seqNr = true ↔
      BitSet.contains self.successfullyExecutedSeqNrs seqNr = true ∨
        ev.sequenceNumber = seqNr ∧ ev.state = .success := by
  obtain ⟨recorded, isRecorded, rfl⟩ := updateWithEvent_eq_some_iff.mp updated
  rw [recordMaxSequenceNumber_successfullyExecutedSeqNrs]
  exact (recordState_records isRecorded).contains_iff seqNr

theorem Records.localAnomalies_subset
    (records : Records self oldMessageId ev next) :
    self.localAnomalies ⊆ next.localAnomalies := by
  cases records with
  | again _ => exact List.subset_append_left _ _
  | failure _ _ => exact List.Subset.refl _
  | success _ _ _ => exact List.Subset.refl _
  | invalid _ _ _ => exact List.subset_append_left _ _

theorem localAnomalies_subset_updateWithEvent
    (updated : self.updateWithEvent ev = some next) :
    self.localAnomalies ⊆ next.localAnomalies := by
  obtain ⟨recorded, isRecorded, rfl⟩ := updateWithEvent_eq_some_iff.mp updated
  rw [recordMaxSequenceNumber_localAnomalies]
  exact List.Subset.trans (self.localAnomalies_subset_recordMessageId ev)
    (recordState_records isRecorded).localAnomalies_subset

/-- A second message id for a sequence number is an anomaly. -/
theorem doubleExecution_mem_of_changed
    (updated : self.updateWithEvent ev = some next) {old : Bytes32}
    (found : self.messageIdBySequenceNumber.lookup ev.sequenceNumber =
      some old) (changed : old ≠ ev.messageId) :
    .doubleExecution ev.sequenceNumber (some old) ev.messageId ev.state ∈
      next.localAnomalies := by
  obtain ⟨recorded, isRecorded, rfl⟩ := updateWithEvent_eq_some_iff.mp updated
  rw [recordMaxSequenceNumber_localAnomalies]
  apply (recordState_records isRecorded).localAnomalies_subset
  simp [recordMessageId, found, changed]

/-- Any event for an executed sequence number is an anomaly. -/
theorem doubleExecution_mem_of_executed
    (updated : self.updateWithEvent ev = some next)
    (executed :
      BitSet.contains self.successfullyExecutedSeqNrs ev.sequenceNumber) :
    .doubleExecution ev.sequenceNumber
        (self.messageIdBySequenceNumber.lookup ev.sequenceNumber)
        ev.messageId ev.state ∈ next.localAnomalies := by
  obtain ⟨recorded, isRecorded, rfl⟩ := updateWithEvent_eq_some_iff.mp updated
  rw [recordMaxSequenceNumber_localAnomalies]
  have stillExecuted : BitSet.contains
      (self.recordMessageId ev).successfullyExecutedSeqNrs
        ev.sequenceNumber := executed
  rw [recordState, if_pos stillExecuted, Option.some.injEq] at isRecorded
  subst isRecorded
  exact List.mem_append_right _ (List.mem_singleton_self _)

/-- An update returns when the bit set has room for the number. -/
theorem updateWithEvent_returns {bound : UInt64}
    (room : BitSet.HasRoom Bits bound) (self : DestOffRampState Bits)
    (below : ev.sequenceNumber < bound) :
    ∃ next, self.updateWithEvent ev = some next := by
  obtain ⟨recorded, isRecorded⟩ : ∃ recorded,
      (self.recordMessageId ev).recordState
        (self.messageIdBySequenceNumber.lookup ev.sequenceNumber) ev =
          some recorded := by
    rw [recordState]
    split
    · exact ⟨_, rfl⟩
    · split
      · exact ⟨_, rfl⟩
      · obtain ⟨inserted, isInserted⟩ := room
          (self.recordMessageId ev).successfullyExecutedSeqNrs _ below
        rw [isInserted]
        exact ⟨_, rfl⟩
      · exact ⟨_, rfl⟩
  exact ⟨_, updateWithEvent_eq_some_iff.mpr ⟨recorded, isRecorded, rfl⟩⟩

end Event

theorem eraseAll_lookup (seqNrs : Multiset UInt64)
    (messageIds : Finmap fun _ : UInt64 => Bytes32) (seqNr : UInt64) :
    (eraseAll seqNrs messageIds).lookup seqNr =
      if seqNr ∈ seqNrs then none else messageIds.lookup seqNr := by
  induction seqNrs using Multiset.induction_on with
  | empty => simp [eraseAll]
  | cons first rest induction =>
      have step : eraseAll (first ::ₘ rest) messageIds =
          (eraseAll rest messageIds).erase first := by
        simp [eraseAll]
      rw [step]
      by_cases same : seqNr = first
      · subst same
        simp [Finmap.lookup_erase]
      · rw [Finmap.lookup_erase_ne same, induction]
        simp [same]

theorem reapMessageIds_lookup (self : DestOffRampState Bits)
    (seqNrs : Finset UInt64) (seqNr : UInt64) :
    (self.reapMessageIds seqNrs).messageIdBySequenceNumber.lookup seqNr =
      if seqNr ∈ seqNrs then none
      else self.messageIdBySequenceNumber.lookup seqNr :=
  eraseAll_lookup seqNrs.val self.messageIdBySequenceNumber seqNr

end DestOffRampState

/-- The panic leaves the locks of the machine poisoned, so that no later call
works either; it is the error that breaks a machine down. -/
instance {Bits : Type} [BitSet Bits] :
    State (DestOffRampState Bits) SimpleExecutionStateChangedFilter
      ExecutionStateChanged where
  updateWithEvent self _blockNumber _blockHash _address _filter ev :=
    match self.updateWithEvent ev with
    | some next => (next, .ok ())
    | none =>
        (self.recordMessageId ev, .error (.bitSetPanics ev.sequenceNumber))

/-! ## Logs of the event -/

/-- The keccak256 of the event's signature. -/
def executionStateChangedTopic : Bytes32 :=
  ⟨[0xd4, 0xf8, 0x51, 0x95, 0x6a, 0x5d, 0x67, 0xc3,
      0x99, 0x7d, 0x1c, 0x92, 0x05, 0x04, 0x5f, 0xef,
      0x79, 0xba, 0xe2, 0x94, 0x7f, 0xde, 0xe7, 0xe9,
      0xe2, 0x64, 0x1a, 0xbc, 0x73, 0x91, 0xef, 0x65], rfl⟩

/-- The log of an execution with empty return data. -/
def executionLog (blockNumber : UInt64) (sequenceNumber state : UInt8)
    (messageId : Bytes32) : EVMLog where
  logIndex := 0
  address := SizedBytes.replicate 20 0
  data := ⟨⟨BigEndian.digits 32 state.toNat ++ BigEndian.digits 32 64 ++
    BigEndian.digits 32 0, by simp⟩⟩
  topics := [executionStateChangedTopic,
    ⟨BigEndian.digits 32 sequenceNumber.toNat, by simp⟩, messageId]
  blockHash := SizedBytes.replicate 32 0
  blockNumber := blockNumber

example : decodeLog ExecutionStateChanged executionStateChangedTopic
    (executionLog 5 7 2 (SizedBytes.replicate 32 1)) =
      .ok ⟨7, SizedBytes.replicate 32 1, .success⟩ := by
  decide +kernel

def numberedBlock (number : UInt64) : Block where
  number := number
  hash := SizedBytes.replicate 32 0
  parentHash := SizedBytes.replicate 32 0
  timestamp := 0

/-- One execution, of sequence number 1, in the given block. -/
def oneExecution (blockNumber : UInt64) : LogChain where
  logs := [executionLog blockNumber 1 2 (SizedBytes.replicate 32 1)]
  ordered := List.pairwise_singleton _ _

theorem oneExecution_decodes (blockNumber : UInt64) :
    ∀ log ∈ (oneExecution blockNumber).logs, ∃ event,
      ContractEventFilter.decodeLog
        (SimpleExecutionStateChangedFilter.mk executionStateChangedTopic)
          log = .ok event := by
  intro log member
  rw [List.mem_singleton.mp member]
  refine ⟨⟨1, SizedBytes.replicate 32 1, .success⟩, ?_⟩
  change decodeLog ExecutionStateChanged executionStateChangedTopic
    (executionLog 0 1 2 (SizedBytes.replicate 32 1)) = _
  decide +kernel

end RiskManagement
