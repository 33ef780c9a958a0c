import RiskManagement.Afn.DestOffRampState

/-!
# The local anomalies are exact

The state reports an anomaly exactly when the events themselves show one, also
when message ids of executed sequence numbers are reaped on the way.
-/

namespace RiskManagement

/-- Nothing is wrong with the events, in the order they came in. -/
structure Faultless (events : List ExecutionStateChanged) : Prop where
  same_id : ∀ left ∈ events, ∀ right ∈ events,
    left.sequenceNumber = right.sequenceNumber →
      left.messageId = right.messageId
  final_state : ∀ ev ∈ events, ev.state = .success ∨ ev.state = .failure
  success_last : events.Pairwise fun earlier later =>
    earlier.sequenceNumber = later.sequenceNumber → earlier.state ≠ .success

/-- The events so far leave nothing wrong with one more. -/
structure Continues (events : List ExecutionStateChanged)
    (ev : ExecutionStateChanged) : Prop where
  same_id : ∀ earlier ∈ events, earlier.sequenceNumber = ev.sequenceNumber →
    earlier.messageId = ev.messageId
  final_state : ev.state = .success ∨ ev.state = .failure
  not_executed : ∀ earlier ∈ events,
    earlier.sequenceNumber = ev.sequenceNumber → earlier.state ≠ .success

theorem faultless_nil : Faultless [] := by
  constructor <;> simp

theorem faultless_append_singleton {events : List ExecutionStateChanged}
    {ev : ExecutionStateChanged} :
    Faultless (events ++ [ev]) ↔ Faultless events ∧ Continues events ev := by
  constructor
  · rintro ⟨sameId, finalState, successLast⟩
    rw [List.pairwise_append] at successLast
    refine ⟨⟨?_, ?_, successLast.1⟩, ?_, ?_, ?_⟩
    · intro left leftMember right rightMember
      exact sameId left (List.mem_append_left _ leftMember) right
        (List.mem_append_left _ rightMember)
    · intro other member
      exact finalState other (List.mem_append_left _ member)
    · intro earlier member
      exact sameId earlier (List.mem_append_left _ member) ev (by simp)
    · exact finalState ev (by simp)
    · intro earlier member
      exact successLast.2.2 earlier member ev (by simp)
  · rintro ⟨⟨sameId, finalState, successLast⟩, evSameId, evFinal,
      notExecuted⟩
    refine ⟨?_, ?_, ?_⟩
    · intro left leftMember right rightMember same
      rcases List.mem_append.mp leftMember with leftBefore | leftNew <;>
        rcases List.mem_append.mp rightMember with rightBefore | rightNew
      · exact sameId left leftBefore right rightBefore same
      · rw [List.mem_singleton.mp rightNew] at same ⊢
        exact evSameId left leftBefore same
      · rw [List.mem_singleton.mp leftNew] at same ⊢
        exact (evSameId right rightBefore same.symm).symm
      · rw [List.mem_singleton.mp leftNew, List.mem_singleton.mp rightNew]
    · intro other member
      rcases List.mem_append.mp member with before | new
      · exact finalState other before
      · rw [List.mem_singleton.mp new]
        exact evFinal
    · rw [List.pairwise_append]
      refine ⟨successLast, List.pairwise_singleton _ _, ?_⟩
      intro earlier before new isNew
      rw [List.mem_singleton.mp isNew]
      exact notExecuted earlier before

namespace DestOffRampState

section Exactness

variable {Bits : Type} [BitSet Bits] [LawfulBitSet Bits]
  {self next : DestOffRampState Bits} {ev : ExecutionStateChanged}

/-! ### What one event adds -/

omit [BitSet Bits] [LawfulBitSet Bits] in
theorem recordMessageId_localAnomalies_eq_nil_iff :
    (self.recordMessageId ev).localAnomalies = [] ↔
      self.localAnomalies = [] ∧ ∀ old,
        self.messageIdBySequenceNumber.lookup ev.sequenceNumber = some old →
          old = ev.messageId := by
  rw [recordMessageId]
  cases found : self.messageIdBySequenceNumber.lookup ev.sequenceNumber with
  | none => simp
  | some old =>
      by_cases same : old = ev.messageId
      · simp [same]
      · simp [same]

omit [LawfulBitSet Bits] in
theorem Records.localAnomalies_eq_nil_iff {oldMessageId : Option Bytes32}
    (records : Records self oldMessageId ev next) :
    next.localAnomalies = [] ↔
      self.localAnomalies = [] ∧
        ¬BitSet.contains self.successfullyExecutedSeqNrs ev.sequenceNumber ∧
        (ev.state = .success ∨ ev.state = .failure) := by
  cases records with
  | again executed => simp [executed]
  | failure notExecuted isFailure => simp [notExecuted, isFailure]
  | success notExecuted isSuccess _ => simp [notExecuted, isSuccess]
  | invalid _ notSuccess notFailure => simp [notSuccess, notFailure]

omit [LawfulBitSet Bits] in
/-- An event adds no anomaly exactly when it fits what is recorded. -/
theorem updateWithEvent_localAnomalies_eq_nil_iff
    (updated : self.updateWithEvent ev = some next) :
    next.localAnomalies = [] ↔
      self.localAnomalies = [] ∧
        (∀ old, self.messageIdBySequenceNumber.lookup ev.sequenceNumber =
          some old → old = ev.messageId) ∧
        ¬BitSet.contains self.successfullyExecutedSeqNrs ev.sequenceNumber ∧
        (ev.state = .success ∨ ev.state = .failure) := by
  obtain ⟨recorded, isRecorded, rfl⟩ := updateWithEvent_eq_some_iff.mp updated
  rw [recordMaxSequenceNumber_localAnomalies,
    (recordState_records isRecorded).localAnomalies_eq_nil_iff,
    recordMessageId_localAnomalies_eq_nil_iff, and_assoc]
  rfl

/-! ### Runs -/

/-- The states that some events lead to, with executed sequence numbers reaped
at any time in between. -/
inductive Replays :
    List ExecutionStateChanged → DestOffRampState Bits → Prop where
  | start : Replays [] default
  | event {events : List ExecutionStateChanged}
      {state next : DestOffRampState Bits} (ev : ExecutionStateChanged) :
      Replays events state → state.updateWithEvent ev = some next →
        Replays (events ++ [ev]) next
  | reap {events : List ExecutionStateChanged} {state : DestOffRampState Bits}
      (seqNrs : Finset UInt64) :
      Replays events state →
        (∀ seqNr ∈ seqNrs,
          BitSet.contains state.successfullyExecutedSeqNrs seqNr) →
        Replays events (state.reapMessageIds seqNrs)

/-- What the collections say about the events. -/
structure Tracks (events : List ExecutionStateChanged)
    (state : DestOffRampState Bits) : Prop where
  executed_iff : ∀ seqNr,
    BitSet.contains state.successfullyExecutedSeqNrs seqNr ↔
      ∃ ev ∈ events, ev.sequenceNumber = seqNr ∧ ev.state = .success
  id_recorded : ∀ ev ∈ events,
    ¬BitSet.contains state.successfullyExecutedSeqNrs ev.sequenceNumber →
      ∃ id, state.messageIdBySequenceNumber.lookup ev.sequenceNumber = some id
  id_from_event : ∀ seqNr id,
    state.messageIdBySequenceNumber.lookup seqNr = some id →
      ∃ ev ∈ events, ev.sequenceNumber = seqNr ∧ ev.messageId = id
  anomalies_iff : state.localAnomalies = [] ↔ Faultless events

theorem tracks_start : Tracks [] (default : DestOffRampState Bits) := by
  constructor
  · simp [default, LawfulBitSet.contains_empty]
  · simp
  · simp [default]
  · simp [default, faultless_nil]

variable {events : List ExecutionStateChanged}
  {state : DestOffRampState Bits}

omit [LawfulBitSet Bits] in
/-- On faultless events the recorded id stands for all of them. -/
theorem Tracks.continues_iff (tracks : Tracks events state)
    (faultless : Faultless events) (ev : ExecutionStateChanged) :
    Continues events ev ↔
      (∀ old, state.messageIdBySequenceNumber.lookup ev.sequenceNumber =
          some old → old = ev.messageId) ∧
        ¬BitSet.contains state.successfullyExecutedSeqNrs
          ev.sequenceNumber ∧
        (ev.state = .success ∨ ev.state = .failure) := by
  rw [tracks.executed_iff]
  constructor
  · rintro ⟨sameId, finalState, notExecuted⟩
    refine ⟨?_, ?_, finalState⟩
    · intro old found
      obtain ⟨earlier, member, same, rfl⟩ := tracks.id_from_event _ _ found
      exact sameId earlier member same
    · rintro ⟨earlier, member, same, success⟩
      exact notExecuted earlier member same success
  · rintro ⟨recordedId, notExecuted, finalState⟩
    refine ⟨?_, finalState, ?_⟩
    · intro earlier member same
      have unexecuted : ¬BitSet.contains state.successfullyExecutedSeqNrs
          earlier.sequenceNumber := by
        rw [tracks.executed_iff, same]
        exact notExecuted
      obtain ⟨id, found⟩ := tracks.id_recorded earlier member unexecuted
      obtain ⟨recorded, recordedMember, sameNumber, rfl⟩ :=
        tracks.id_from_event _ _ found
      rw [same] at found
      rw [← recordedId _ found]
      exact faultless.same_id earlier member recorded recordedMember
        sameNumber.symm
    · intro earlier member same success
      exact notExecuted ⟨earlier, member, same, success⟩

theorem Tracks.event (tracks : Tracks events state)
    (updated : state.updateWithEvent ev = some next) :
    Tracks (events ++ [ev]) next := by
  constructor
  · intro seqNr
    rw [contains_updateWithEvent updated, tracks.executed_iff]
    simp only [List.mem_append, List.mem_singleton, or_and_right, exists_or,
      exists_eq_left]
  · intro other member unexecuted
    rw [updateWithEvent_messageIdBySequenceNumber updated]
    by_cases same : other.sequenceNumber = ev.sequenceNumber
    · rw [same, Finmap.lookup_insert]
      exact ⟨_, rfl⟩
    · rw [Finmap.lookup_insert_of_ne _ same]
      rcases List.mem_append.mp member with before | new
      · apply tracks.id_recorded other before
        intro executed
        exact unexecuted
          ((contains_updateWithEvent updated _).mpr (.inl executed))
      · rw [List.mem_singleton.mp new] at same
        exact absurd rfl same
  · intro seqNr id found
    rw [updateWithEvent_messageIdBySequenceNumber updated] at found
    by_cases same : seqNr = ev.sequenceNumber
    · rw [same, Finmap.lookup_insert] at found
      exact ⟨ev, by simp, same.symm, Option.some.inj found⟩
    · rw [Finmap.lookup_insert_of_ne _ same] at found
      obtain ⟨earlier, member, fits⟩ := tracks.id_from_event seqNr id found
      exact ⟨earlier, List.mem_append_left _ member, fits⟩
  · rw [updateWithEvent_localAnomalies_eq_nil_iff updated, tracks.anomalies_iff,
      faultless_append_singleton]
    constructor
    · rintro ⟨faultless, fits⟩
      exact ⟨faultless, (tracks.continues_iff faultless ev).mpr fits⟩
    · rintro ⟨faultless, continues⟩
      exact ⟨faultless, (tracks.continues_iff faultless ev).mp continues⟩

omit [LawfulBitSet Bits] in
/-- Reaping executed sequence numbers erases nothing that still matters. -/
theorem Tracks.reap (tracks : Tracks events state) {seqNrs : Finset UInt64}
    (executed : ∀ seqNr ∈ seqNrs,
      BitSet.contains state.successfullyExecutedSeqNrs seqNr) :
    Tracks events (state.reapMessageIds seqNrs) := by
  constructor
  · exact tracks.executed_iff
  · intro ev member unexecuted
    have notReaped : ev.sequenceNumber ∉ seqNrs :=
      fun reaped => unexecuted (executed _ reaped)
    rw [reapMessageIds_lookup, if_neg notReaped]
    exact tracks.id_recorded ev member unexecuted
  · intro seqNr id found
    rw [reapMessageIds_lookup] at found
    split at found
    · cases found
    · exact tracks.id_from_event seqNr id found
  · exact tracks.anomalies_iff

theorem Replays.tracks (replays : Replays events state) :
    Tracks events state := by
  induction replays with
  | start => exact tracks_start
  | event _ _ updated induction => exact induction.event updated
  | reap seqNrs _ executed induction => exact induction.reap executed

end Exactness

end DestOffRampState

end RiskManagement
