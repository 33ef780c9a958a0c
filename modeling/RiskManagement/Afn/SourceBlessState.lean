import RiskManagement.Library.Checked
import RiskManagement.Library.PartitionPoint
import RiskManagement.Afn.CommitStoreCommon
import RiskManagement.Afn.ContractEventStateMachine
import RiskManagement.Afn.MessageHashCommits

/-!
# The replayed state of a lane's source

The hashes of all messages in a row, each recomputed from its event.
-/

namespace RiskManagement

/-- The event of an on-ramp of either version. -/
inductive CcipSendRequestedEventUnion where
  | evm2EvmV1_0 (ev : CcipSendRequestedEventV1_0)
  | evm2EvmV1_2 (ev : CcipSendRequestedEventV1_2)
deriving DecidableEq

/-- The filter of a lane's source. -/
structure VersionedCcipSendRequestFilter where
  laneType : LaneType
deriving DecidableEq

/-- The hashes of a lane's messages under their sequence numbers. -/
structure SourceBlessState where
  messageMetadata : MessageMetadata
  seqNrsAndMessageHashes : List (UInt64 × Bytes32)
deriving DecidableEq

namespace SourceBlessState

/-- The state that a lane's worker starts from. -/
def new (messageMetadata : MessageMetadata) : SourceBlessState :=
  ⟨messageMetadata, []⟩

/-- The sequence number, recomputed hash and message id of an event. -/
def readEvent (self : SourceBlessState) (keccak : Keccak)
    (laneType : LaneType) (ev : CcipSendRequestedEventUnion) :
    Except StateError (UInt64 × Bytes32 × Bytes32) :=
  match laneType, ev with
  | .evm2EvmV1_0, .evm2EvmV1_0 ev =>
      let msg := ev.message
      .ok (msg.sequenceNumber,
        (MessageHash.hash keccak msg self.messageMetadata).value,
        msg.messageId)
  | .evm2EvmV1_2, .evm2EvmV1_2 ev =>
      let msg := ev.message
      .ok (msg.sequenceNumber,
        (MessageHash.hash keccak msg self.messageMetadata).value,
        msg.messageId)
  | .evm2EvmV1_0, .evm2EvmV1_2 _ => .error (.laneTypeMismatch .evm2EvmV1_0)
  | .evm2EvmV1_2, .evm2EvmV1_0 _ => .error (.laneTypeMismatch .evm2EvmV1_2)

/-- The check against the last sequence number, whose successor wraps as it
does in a release build. -/
def checkContiguous (self : SourceBlessState) (seqNr : UInt64) :
    Except StateError Unit :=
  match self.seqNrsAndMessageHashes.getLast? with
  | some (lastSeqNr, _) =>
      if lastSeqNr + 1 ≠ seqNr then
        .error (.notContiguous lastSeqNr seqNr)
      else
        .ok ()
  | none =>
      if seqNr ≠ 1 then .error (.firstSeqNr seqNr) else .ok ()

/-- `update_with_event`, which fails before it changes anything. -/
def updateWithEvent (self : SourceBlessState) (keccak : Keccak)
    (filter : VersionedCcipSendRequestFilter)
    (ev : CcipSendRequestedEventUnion) :
    Except StateError SourceBlessState := do
  let (seqNr, msgHash, msgId) ← self.readEvent keccak filter.laneType ev
  if msgHash ≠ msgId then
    .error (.hashMismatch seqNr msgHash msgId)
  else
    self.checkContiguous seqNr
    return { self with
      seqNrsAndMessageHashes :=
        self.seqNrsAndMessageHashes ++ [(seqNr, msgHash)] }

/-- `None` unless every number of the interval is held. -/
def getMessageHashes (self : SourceBlessState) (interval : Interval) :
    Option (List Bytes32) := do
  let (initialSeqNr, _) ← self.seqNrsAndMessageHashes.head?
  let startIndex ← Word64.checkedSub interval.min initialSeqNr
  let endIndex ← Word64.checkedAdd startIndex
    (← Word64.checkedSub interval.max interval.min)
  if endIndex.toNat ≥ self.seqNrsAndMessageHashes.length then
    none
  else
    return ((self.seqNrsAndMessageHashes.take (endIndex.toNat + 1)).drop
      startIndex.toNat).map Prod.snd

instance : OnRampReader SourceBlessState := ⟨getMessageHashes⟩

/-- On a queue whose numbers have wrapped around, what the search finds also
depends on where the ring buffer is cut; this is the search of one slice. -/
def tryReapUpTo (self : SourceBlessState) (seqNr : UInt64) :
    SourceBlessState :=
  let index := PartitionPoint.partitionPoint (fun (s, _) => s ≤ seqNr)
    self.seqNrsAndMessageHashes
  { self with
    seqNrsAndMessageHashes := self.seqNrsAndMessageHashes.drop index }

/-- The hash under one number, found by its distance from the first one. -/
def messageHash (self : SourceBlessState) (seqNr : UInt64) :
    Option Bytes32 := do
  let (minSeqNr, _) ← self.seqNrsAndMessageHashes.head?
  let idx ← Word64.checkedSub seqNr minSeqNr
  let (_, msgHash) ← self.seqNrsAndMessageHashes[idx.toNat]?
  return msgHash

/-- Events that are all accepted. -/
def applyAll (self : SourceBlessState) (keccak : Keccak)
    (filter : VersionedCcipSendRequestFilter)
    (events : List CcipSendRequestedEventUnion) :
    Except StateError SourceBlessState :=
  events.foldlM (fun self ev => self.updateWithEvent keccak filter ev) self

end SourceBlessState

/-! ### The messages behind the state -/

def CcipSendRequestedEventUnion.message :
    CcipSendRequestedEventUnion → VersionedMessage
  | .evm2EvmV1_0 ev => .v1_0 ev.message
  | .evm2EvmV1_2 ev => .v1_2 ev.message

namespace VersionedMessage

def sequenceNumber : VersionedMessage → UInt64
  | .v1_0 message => message.sequenceNumber
  | .v1_2 message => message.sequenceNumber

def messageId : VersionedMessage → Bytes32
  | .v1_0 message => message.messageId
  | .v1_2 message => message.messageId

end VersionedMessage

namespace SourceBlessState

/-- The state holds exactly the given messages, numbered from one, and each
hashes to its message id. -/
structure Holds (state : SourceBlessState) (keccak : Keccak)
    (messages : List VersionedMessage) : Prop where
  entries : state.seqNrsAndMessageHashes =
    messages.map fun message => (message.sequenceNumber, message.messageId)
  hashed : ∀ message ∈ messages,
    (message.hash keccak state.messageMetadata).value = message.messageId
  numbered : messages.map VersionedMessage.sequenceNumber =
    (List.range messages.length).map fun index => UInt64.ofNat (index + 1)

theorem new_holds (messageMetadata : MessageMetadata) (keccak : Keccak) :
    (new messageMetadata).Holds keccak [] := by
  constructor
  · rfl
  · intro message member
    simp at member
  · rfl

section Event

variable {state next : SourceBlessState} {keccak : Keccak}
  {filter : VersionedCcipSendRequestFilter}
  {ev : CcipSendRequestedEventUnion}

theorem readEvent_eq_ok {laneType : LaneType} {seqNr : UInt64}
    {msgHash msgId : Bytes32}
    (reads : state.readEvent keccak laneType ev =
      .ok (seqNr, msgHash, msgId)) :
    seqNr = ev.message.sequenceNumber ∧
      msgHash = (ev.message.hash keccak state.messageMetadata).value ∧
      msgId = ev.message.messageId := by
  unfold readEvent at reads
  cases laneType with
  | evm2EvmV1_0 =>
      cases ev with
      | evm2EvmV1_0 ev =>
          cases reads
          exact ⟨rfl, rfl, rfl⟩
      | evm2EvmV1_2 ev => cases reads
  | evm2EvmV1_2 =>
      cases ev with
      | evm2EvmV1_0 ev => cases reads
      | evm2EvmV1_2 ev =>
          cases reads
          exact ⟨rfl, rfl, rfl⟩

/-- What an accepted event was checked for, and what it adds. -/
theorem updateWithEvent_eq_ok
    (accepted : state.updateWithEvent keccak filter ev = .ok next) :
    (ev.message.hash keccak state.messageMetadata).value =
        ev.message.messageId ∧
      state.checkContiguous ev.message.sequenceNumber = .ok () ∧
      next = { state with
        seqNrsAndMessageHashes := state.seqNrsAndMessageHashes ++
          [(ev.message.sequenceNumber, ev.message.messageId)] } := by
  obtain ⟨⟨seqNr, msgHash, msgId⟩, reads, accepted⟩ :=
    Checked.bind_eq_ok_iff.mp accepted
  obtain ⟨rfl, rfl, rfl⟩ := readEvent_eq_ok reads
  simp only at accepted
  split at accepted
  · cases accepted
  · rename_i sameHash
    obtain ⟨_, contiguous, accepted⟩ := Checked.bind_eq_ok_iff.mp accepted
    cases accepted
    refine ⟨not_not.mp sameHash, contiguous, ?_⟩
    rw [not_not.mp sameHash]

/-- The next number is one more than the number of messages. -/
theorem Holds.nextSeqNr {messages : List VersionedMessage}
    (holds : state.Holds keccak messages) {seqNr : UInt64}
    (contiguous : state.checkContiguous seqNr = .ok ()) :
    seqNr = .ofNat (messages.length + 1) := by
  rw [checkContiguous, holds.entries, List.getLast?_map] at contiguous
  cases messages using List.reverseRecOn with
  | nil => simpa using contiguous
  | append_singleton earlier message =>
      have numbers := congrArg List.getLast? holds.numbered
      have last : message.sequenceNumber = .ofNat (earlier.length + 1) := by
        simpa [List.range_succ] using numbers
      have next : message.sequenceNumber + 1 = seqNr := by
        simpa using contiguous
      rw [← next, last, List.length_append, List.length_singleton]
      simp

theorem Holds.updateWithEvent {messages : List VersionedMessage}
    (holds : state.Holds keccak messages)
    (accepted : state.updateWithEvent keccak filter ev = .ok next) :
    next.messageMetadata = state.messageMetadata ∧
      next.Holds keccak (messages ++ [ev.message]) := by
  obtain ⟨sameHash, contiguous, rfl⟩ := updateWithEvent_eq_ok accepted
  refine ⟨rfl, ?_⟩
  constructor
  · rw [List.map_append, ← holds.entries]
    rfl
  · intro message member
    rcases List.mem_append.mp member with old | new
    · exact holds.hashed message old
    · rw [List.mem_singleton.mp new]
      exact sameHash
  · rw [List.map_append, holds.numbered, List.length_append,
      List.length_singleton, List.range_succ, List.map_append,
      List.map_singleton, List.map_singleton, holds.nextSeqNr contiguous]

theorem applyAll_holds {messageMetadata : MessageMetadata}
    {final : SourceBlessState} {events : List CcipSendRequestedEventUnion}
    (accepted : (new messageMetadata).applyAll keccak filter events =
      .ok final) :
    final.messageMetadata = messageMetadata ∧
      final.Holds keccak
        (events.map CcipSendRequestedEventUnion.message) := by
  induction events using List.reverseRecOn generalizing final with
  | nil =>
      cases accepted
      exact ⟨rfl, new_holds messageMetadata keccak⟩
  | append_singleton events ev induction =>
      rw [applyAll] at accepted induction
      rw [List.foldlM_append] at accepted
      obtain ⟨state, before, accepted⟩ := Checked.bind_eq_ok_iff.mp accepted
      rw [List.foldlM_cons] at accepted
      obtain ⟨next, step, accepted⟩ := Checked.bind_eq_ok_iff.mp accepted
      cases accepted
      obtain ⟨sameMetadata, holds⟩ := induction before
      obtain ⟨unchanged, holds⟩ := holds.updateWithEvent step
      rw [List.map_append]
      exact ⟨unchanged.trans sameMetadata, holds⟩

end Event

/-! ### Reading an interval -/

theorem Holds.sequenceNumber_getElem {state : SourceBlessState}
    {keccak : Keccak} {messages : List VersionedMessage}
    (holds : state.Holds keccak messages) {index : Nat}
    (bound : index < messages.length) :
    messages[index].sequenceNumber = .ofNat (index + 1) := by
  have same := congrArg (fun numbers => numbers[index]?) holds.numbered
  simpa [bound] using same

/-- The hashes of an interval are the message ids of the messages with exactly
its sequence numbers. -/
theorem Holds.getMessageHashes {state : SourceBlessState} {keccak : Keccak}
    {messages : List VersionedMessage} (holds : state.Holds keccak messages)
    {interval : Interval} {hashes : List Bytes32}
    (found : state.getMessageHashes interval = some hashes) :
    ∃ slice : List VersionedMessage, slice ⊆ messages ∧
      hashes = slice.map VersionedMessage.messageId ∧
      slice.map (fun message => message.sequenceNumber.toNat) =
        List.range' interval.min.toNat
          (interval.max.toNat - interval.min.toNat + 1) := by
  simp only [SourceBlessState.getMessageHashes, bind,
    Option.bind_eq_some_iff] at found
  obtain ⟨⟨initialSeqNr, _⟩, first, startIndex, start, width, extent,
    endIndex, stop, found⟩ := found
  split at found
  · cases found
  · rename_i inside
    cases found
    have isFirst : initialSeqNr = 1 := by
      rw [holds.entries, List.head?_map] at first
      cases messages with
      | nil => simp at first
      | cons message rest =>
          have number := holds.sequenceNumber_getElem (Nat.zero_lt_succ _)
          simp only [List.head?_cons, Option.map_some, Option.some.injEq,
            Prod.mk.injEq] at first
          rw [← first.1]
          exact number
    subst isFirst
    rw [Word64.checkedSub_eq_some_iff] at start extent
    rw [Word64.checkedAdd_eq_some_iff] at stop
    rw [holds.entries, List.length_map] at inside
    have start : 1 + startIndex.toNat = interval.min.toNat := start
    have bound := interval.max.toNat_lt
    refine ⟨(messages.take (endIndex.toNat + 1)).drop startIndex.toNat,
      ?_, ?_, ?_⟩
    · intro message member
      exact List.mem_of_mem_take (List.mem_of_mem_drop member)
    · rw [holds.entries, List.map_drop, List.map_drop, List.map_take,
        List.map_take, List.map_map]
      rfl
    · apply List.ext_getElem
      · simp only [List.length_map, List.length_drop, List.length_take,
          List.length_range']
        omega
      · intro index inSlice inInterval
        rw [List.length_range'] at inInterval
        rw [List.getElem_map, List.getElem_drop, List.getElem_take,
          holds.sequenceNumber_getElem (by omega), List.getElem_range',
          UInt64.toNat_ofNat', Nat.mod_eq_of_lt (by omega)]
        omega

end SourceBlessState

/-- The sending of a numbered message. -/
def numberedSend (keccak : Keccak) (messageMetadata : MessageMetadata)
    (seqNr : UInt64) : CcipSendRequestedEventUnion :=
  .evm2EvmV1_0 ⟨numberedMessage keccak messageMetadata seqNr⟩

end RiskManagement
