import Mathlib.Data.List.TakeWhile
import RiskManagement.Afn.SourceWindow

/-!
# Which message comes next

An event is checked against the back of the queue that reaping shortens, so
what reaping leaves in the queue decides which message is accepted next.
-/

namespace RiskManagement

namespace CcipSendRequestedEventUnion

def laneType : CcipSendRequestedEventUnion → LaneType
  | .evm2EvmV1_0 _ => .evm2EvmV1_0
  | .evm2EvmV1_2 _ => .evm2EvmV1_2

end CcipSendRequestedEventUnion

namespace SourceBlessState

variable {keccak : Keccak} {state : SourceBlessState}
  {filter : VersionedCcipSendRequestFilter}
  {ev : CcipSendRequestedEventUnion}

/-! ### Acceptance -/

/-- The state takes the event. -/
def Accepts (self : SourceBlessState) (keccak : Keccak)
    (filter : VersionedCcipSendRequestFilter)
    (ev : CcipSendRequestedEventUnion) : Prop :=
  (self.update keccak filter ev).2 = .ok ()

instance (self : SourceBlessState) (keccak : Keccak)
    (filter : VersionedCcipSendRequestFilter)
    (ev : CcipSendRequestedEventUnion) :
    Decidable (self.Accepts keccak filter ev) :=
  inferInstanceAs (Decidable (_ = _))

/-- The one sequence number that the next event may carry. -/
def nextSeqNr (self : SourceBlessState) : UInt64 :=
  match self.seqNrsAndMessageHashes.getLast? with
  | some (lastSeqNr, _) => lastSeqNr + 1
  | none => 1

theorem checkContiguous_eq_ok_iff {seqNr : UInt64} :
    state.checkContiguous seqNr = .ok () ↔ seqNr = state.nextSeqNr := by
  rw [checkContiguous, nextSeqNr]
  cases state.seqNrsAndMessageHashes.getLast? with
  | none => simp
  | some last => simp [eq_comm]

theorem readEvent_eq (self : SourceBlessState) (laneType : LaneType)
    (ev : CcipSendRequestedEventUnion) :
    self.readEvent keccak laneType ev =
      if laneType = ev.laneType then
        .ok (ev.message.sequenceNumber,
          (ev.message.hash keccak self.messageMetadata).value,
          ev.message.messageId)
      else
        .error (.laneTypeMismatch laneType) := by
  cases laneType <;> cases ev <;> rfl

theorem accepts_iff :
    state.Accepts keccak filter ev ↔
      filter.laneType = ev.laneType ∧
        (ev.message.hash keccak state.messageMetadata).value =
          ev.message.messageId ∧
        ev.message.sequenceNumber = state.nextSeqNr := by
  rw [Accepts, update, readEvent_eq, ← checkContiguous_eq_ok_iff]
  by_cases sameType : filter.laneType = ev.laneType
  · rw [if_pos sameType]
    by_cases sameHash :
        (ev.message.hash keccak state.messageMetadata).value =
          ev.message.messageId
    · cases contiguous : state.checkContiguous ev.message.sequenceNumber with
      | error error => simp [sameHash, contiguous]
      | ok done => simp [sameType, sameHash, contiguous]
    · simp [sameHash]
  · rw [if_neg sameType]
    simp [sameType]

theorem accepts_numberedSend_iff {seqNr : UInt64} :
    state.Accepts keccak ⟨.evm2EvmV1_0⟩
        (numberedSend keccak state.messageMetadata seqNr) ↔
      seqNr = state.nextSeqNr := by
  rw [accepts_iff]
  constructor
  · intro accepted
    exact accepted.2.2
  · intro isNext
    exact ⟨rfl, rfl, isNext⟩

/-- Some event with the sequence number would be accepted. -/
def Acceptable (self : SourceBlessState) (keccak : Keccak)
    (seqNr : UInt64) : Prop :=
  ∃ filter ev, ev.message.sequenceNumber = seqNr ∧
    self.Accepts keccak filter ev

theorem acceptable_iff {seqNr : UInt64} :
    state.Acceptable keccak seqNr ↔ seqNr = state.nextSeqNr := by
  constructor
  · intro acceptable
    obtain ⟨filter, ev, rfl, accepted⟩ := acceptable
    exact (accepts_iff.mp accepted).2.2
  · intro isNext
    exact ⟨_, _, rfl, accepts_numberedSend_iff.mpr isNext⟩

/-! ### One reap -/

/-- The reap leaves all later acceptance as it was. -/
def ReapKeepsNext (self : SourceBlessState) (keccak : Keccak)
    (bound : UInt64) : Prop :=
  ∀ filter ev, (self.tryReapUpTo bound).Accepts keccak filter ev ↔
    self.Accepts keccak filter ev

/-- Nothing is held, or something above the bound is. -/
def LeavesLast (self : SourceBlessState) (bound : UInt64) : Prop :=
  self.seqNrsAndMessageHashes = [] ∨
    ∃ entry ∈ self.seqNrsAndMessageHashes, bound < entry.1

instance (self : SourceBlessState) (bound : UInt64) :
    Decidable (self.LeavesLast bound) :=
  inferInstanceAs (Decidable (_ ∨ _))

theorem reapKeepsNext_iff_nextSeqNr {bound : UInt64} :
    state.ReapKeepsNext keccak bound ↔
      (state.tryReapUpTo bound).nextSeqNr = state.nextSeqNr := by
  constructor
  · intro keeps
    apply accepts_numberedSend_iff.mp
    have accepted : (state.tryReapUpTo bound).Accepts keccak ⟨.evm2EvmV1_0⟩
        (numberedSend keccak (state.tryReapUpTo bound).messageMetadata
          (state.tryReapUpTo bound).nextSeqNr) :=
      accepts_numberedSend_iff.mpr rfl
    exact (keeps _ _).mp accepted
  · intro same filter ev
    rw [accepts_iff, accepts_iff, same]
    rfl

theorem Window.nextSeqNr_tryReapUpTo_of_above (window : state.Window)
    {bound : UInt64}
    (above : ∃ entry ∈ state.seqNrsAndMessageHashes, bound < entry.1) :
    (state.tryReapUpTo bound).nextSeqNr = state.nextSeqNr := by
  obtain ⟨first, numbered⟩ := window.consecutive
  obtain ⟨entry, member, above⟩ := above
  obtain ⟨reaped, split⟩ := List.dropWhile_suffix
    (fun entry => decide (entryNumber entry ≤ bound.toNat))
    (l := state.seqNrsAndMessageHashes)
  have left : state.seqNrsAndMessageHashes.dropWhile
      (fun entry => decide (entryNumber entry ≤ bound.toNat)) ≠ [] := by
    rw [Ne, List.dropWhile_eq_nil_iff]
    intro all
    have atMost : entry.1.toNat ≤ bound.toNat :=
      of_decide_eq_true (all entry member)
    rw [UInt64.lt_iff_toNat_lt] at above
    omega
  rw [nextSeqNr, nextSeqNr, numbered.tryReapUpTo_entries]
  nth_rewrite 2 [← split]
  rw [List.getLast?_append_of_ne_nil _ left]

theorem Window.nextSeqNr_tryReapUpTo_of_not_above (window : state.Window)
    {bound : UInt64}
    (notAbove : ¬∃ entry ∈ state.seqNrsAndMessageHashes, bound < entry.1) :
    (state.tryReapUpTo bound).nextSeqNr = 1 := by
  have empty : (state.tryReapUpTo bound).seqNrsAndMessageHashes = [] := by
    rw [List.eq_nil_iff_forall_not_mem]
    intro entry member
    obtain ⟨held, above⟩ := window.mem_tryReapUpTo_iff.mp member
    exact notAbove ⟨entry, held, above⟩
  rw [nextSeqNr, empty]
  rfl

/-- Only an empty window takes the lane's first message next. -/
theorem Window.nextSeqNr_eq_one_iff (window : state.Window) :
    state.nextSeqNr = 1 ↔ state.seqNrsAndMessageHashes = [] := by
  rw [nextSeqNr]
  cases isLast : state.seqNrsAndMessageHashes.getLast? with
  | none => simp [List.getLast?_eq_none_iff.mp isLast]
  | some last =>
      have positive : last.1 ≠ 0 :=
        window.positive last (List.mem_of_getLast? isLast)
      have notEmpty : state.seqNrsAndMessageHashes ≠ [] := by
        intro empty
        rw [empty] at isLast
        cases isLast
      simp [notEmpty, positive]

/-- A reap keeps the next number exactly when it does not empty the queue. -/
theorem Window.nextSeqNr_tryReapUpTo_iff (window : state.Window)
    {bound : UInt64} :
    (state.tryReapUpTo bound).nextSeqNr = state.nextSeqNr ↔
      state.LeavesLast bound := by
  rw [LeavesLast]
  by_cases above : ∃ entry ∈ state.seqNrsAndMessageHashes, bound < entry.1
  · simp only [window.nextSeqNr_tryReapUpTo_of_above above, above, or_true]
  · rw [window.nextSeqNr_tryReapUpTo_of_not_above above, eq_comm,
      window.nextSeqNr_eq_one_iff]
    simp only [above, or_false]

theorem Window.reapKeepsNext_iff (window : state.Window) {bound : UInt64} :
    state.ReapKeepsNext keccak bound ↔ state.LeavesLast bound :=
  reapKeepsNext_iff_nextSeqNr.trans window.nextSeqNr_tryReapUpTo_iff

/-! ### Runs -/

/-- One call, with the sequence number of the last accepted event so far. -/
def trackedCall (keccak : Keccak) (run : SourceBlessState × Option UInt64) :
    WindowCall → SourceBlessState × Option UInt64
  | .update filter ev =>
      match run.1.update keccak filter ev with
      | (next, .ok ()) => (next, some ev.message.sequenceNumber)
      | (next, .error _) => (next, run.2)
  | .reap bound => (run.1.tryReapUpTo bound, run.2)

/-- The sequence number of the last event that a history accepted. -/
def lastAccepted (initial : SourceBlessState) (keccak : Keccak)
    (calls : List WindowCall) : Option UInt64 :=
  (calls.foldl (trackedCall keccak) (initial, none)).2

/-- Every reap of the run leaves all later acceptance as it was. -/
def ReapsKeepNext (initial : SourceBlessState) (keccak : Keccak)
    (calls : List WindowCall) : Prop :=
  ∀ before bound after, calls = before ++ .reap bound :: after →
    (initial.runCalls keccak before).ReapKeepsNext keccak bound

/-- At each moment of the run that has accepted something, exactly the
successor of the last accepted sequence number is acceptable. -/
def SuccessorsNext (initial : SourceBlessState) (keccak : Keccak)
    (calls : List WindowCall) : Prop :=
  ∀ before after, calls = before ++ after →
    ∀ lastSeqNr, initial.lastAccepted keccak before = some lastSeqNr →
      ∀ seqNr, (initial.runCalls keccak before).Acceptable keccak seqNr ↔
        seqNr = lastSeqNr + 1

/-- No reap of the run loses the last sequence number. -/
def ReapsLeaveLast (initial : SourceBlessState) (keccak : Keccak)
    (calls : List WindowCall) : Prop :=
  ∀ before bound after, calls = before ++ .reap bound :: after →
    (initial.runCalls keccak before).LeavesLast bound

/-- The state of a run is a window before each of its reaps. -/
theorem window_before {messageMetadata : MessageMetadata}
    {calls before after : List WindowCall}
    (below : ∀ call ∈ calls, call.BelowMax) (split : calls = before ++ after) :
    ((new messageMetadata).runCalls keccak before).Window := by
  refine (runCalls_window keccak messageMetadata ?_).1
  intro call member
  apply below call
  rw [split]
  exact List.mem_append_left after member

theorem reapsKeepNext_iff {messageMetadata : MessageMetadata}
    {calls : List WindowCall} (below : ∀ call ∈ calls, call.BelowMax) :
    (new messageMetadata).ReapsKeepNext keccak calls ↔
      (new messageMetadata).ReapsLeaveLast keccak calls := by
  constructor
  · intro keep before bound after split
    exact (window_before below split).reapKeepsNext_iff.mp
      (keep before bound after split)
  · intro leave before bound after split
    exact (window_before below split).reapKeepsNext_iff.mpr
      (leave before bound after split)

/-- What the next event must carry by the history, if anything was accepted
yet. -/
def Follows (state : SourceBlessState) : Option UInt64 → Prop
  | some lastSeqNr => state.nextSeqNr = lastSeqNr + 1
  | none => state.seqNrsAndMessageHashes = []

theorem tracked_fst (initial : SourceBlessState) (calls : List WindowCall) :
    (calls.foldl (trackedCall keccak) (initial, none)).1 =
      initial.runCalls keccak calls := by
  induction calls using List.reverseRecOn with
  | nil => rfl
  | append_singleton calls last ih =>
      rw [List.foldl_append, runCalls_append_singleton, ← ih]
      generalize calls.foldl (trackedCall keccak) (initial, none) = run
      cases last with
      | reap bound => rfl
      | update filter ev =>
          simp only [List.foldl_cons, List.foldl_nil, trackedCall, call]
          split
          · rename_i updated
            rw [updated]
          · rename_i updated
            rw [updated]

theorem lastAccepted_reap (initial : SourceBlessState)
    (calls : List WindowCall) (bound : UInt64) :
    initial.lastAccepted keccak (calls ++ [.reap bound]) =
      initial.lastAccepted keccak calls := by
  rw [lastAccepted, List.foldl_append]
  rfl

theorem lastAccepted_update (initial : SourceBlessState)
    (calls : List WindowCall) :
    initial.lastAccepted keccak (calls ++ [.update filter ev]) =
      match (initial.runCalls keccak calls).update keccak filter ev with
      | (_, .ok ()) => some ev.message.sequenceNumber
      | (_, .error _) => initial.lastAccepted keccak calls := by
  rw [lastAccepted, List.foldl_append, ← tracked_fst]
  simp only [List.foldl_cons, List.foldl_nil, trackedCall, lastAccepted]
  split <;> rfl

theorem Follows.update {initial : SourceBlessState} {calls : List WindowCall}
    (follows : (initial.runCalls keccak calls).Follows
      (initial.lastAccepted keccak calls)) :
    (initial.runCalls keccak (calls ++ [.update filter ev])).Follows
      (initial.lastAccepted keccak (calls ++ [.update filter ev])) := by
  have updated := update_eq (initial.runCalls keccak calls) keccak filter ev
  rw [lastAccepted_update, runCalls_append_singleton, call, updated]
  cases accepted : (initial.runCalls keccak calls).updateWithEvent keccak
      filter ev with
  | error error => exact follows
  | ok next =>
      obtain ⟨_, _, rfl⟩ := updateWithEvent_eq_ok accepted
      simp [Follows, nextSeqNr]

/-- A reap keeps what follows exactly when it leaves the last number. -/
theorem Window.follows_reap_iff (window : state.Window) {last : Option UInt64}
    {bound : UInt64} (follows : state.Follows last) :
    (state.tryReapUpTo bound).Follows last ↔ state.LeavesLast bound := by
  cases last with
  | none =>
      have empty : state.seqNrsAndMessageHashes = [] := follows
      constructor
      · intro _
        exact .inl empty
      · intro _
        obtain ⟨first, numbered⟩ := window.consecutive
        rw [Follows, numbered.tryReapUpTo_entries, empty]
        rfl
  | some lastSeqNr =>
      have isNext : state.nextSeqNr = lastSeqNr + 1 := follows
      rw [← window.nextSeqNr_tryReapUpTo_iff, Follows, isNext]

theorem acceptable_iff_follows {lastSeqNr : UInt64} :
    (∀ seqNr, state.Acceptable keccak seqNr ↔ seqNr = lastSeqNr + 1) ↔
      state.Follows (some lastSeqNr) := by
  simp only [acceptable_iff, Follows]
  constructor
  · intro only
    exact (only _).mp rfl
  · intro isNext seqNr
    rw [isNext]

theorem reapsLeaveLast_append_singleton {initial : SourceBlessState}
    {calls : List WindowCall} {last : WindowCall} :
    initial.ReapsLeaveLast keccak (calls ++ [last]) ↔
      initial.ReapsLeaveLast keccak calls ∧
        ∀ bound, last = .reap bound →
          (initial.runCalls keccak calls).LeavesLast bound := by
  constructor
  · intro leave
    constructor
    · intro before bound after split
      apply leave before bound (after ++ [last])
      rw [split, List.append_assoc, List.cons_append]
    · intro bound isReap
      apply leave calls bound []
      rw [isReap]
  · intro leave before bound after split
    obtain ⟨earlier, now⟩ := leave
    rcases List.eq_nil_or_concat after with rfl | ⟨later, final, rfl⟩
    · obtain ⟨rfl, same⟩ := List.append_inj' split rfl
      exact now bound (List.singleton_inj.mp same)
    · rw [List.concat_eq_append, ← List.cons_append, ← List.append_assoc]
        at split
      obtain ⟨rfl, _⟩ := List.append_inj' split rfl
      exact earlier before bound later rfl

/-- While no reap loses the last number, the history says what comes next. -/
theorem ReapsLeaveLast.follows {messageMetadata : MessageMetadata}
    {calls : List WindowCall} (below : ∀ call ∈ calls, call.BelowMax)
    (leave : (new messageMetadata).ReapsLeaveLast keccak calls) :
    ((new messageMetadata).runCalls keccak calls).Follows
      ((new messageMetadata).lastAccepted keccak calls) := by
  induction calls using List.reverseRecOn with
  | nil => rfl
  | append_singleton calls last ih =>
      obtain ⟨earlier, now⟩ := reapsLeaveLast_append_singleton.mp leave
      have belowBefore : ∀ call ∈ calls, call.BelowMax :=
        fun call member => below call (List.mem_append_left _ member)
      have follows := ih belowBefore earlier
      cases last with
      | update filter ev => exact follows.update
      | reap bound =>
          rw [lastAccepted_reap, runCalls_append_singleton]
          exact ((window_before below rfl).follows_reap_iff follows).mpr
            (now bound rfl)

theorem ReapsLeaveLast.earlier {initial : SourceBlessState}
    {before after : List WindowCall}
    (leave : initial.ReapsLeaveLast keccak (before ++ after)) :
    initial.ReapsLeaveLast keccak before := by
  intro earlier bound later split
  apply leave earlier bound (later ++ after)
  rw [split, List.append_assoc, List.cons_append]

theorem successorsNext_iff {messageMetadata : MessageMetadata}
    {calls : List WindowCall} (below : ∀ call ∈ calls, call.BelowMax) :
    (new messageMetadata).SuccessorsNext keccak calls ↔
      (new messageMetadata).ReapsLeaveLast keccak calls := by
  constructor
  · intro successors
    induction calls using List.reverseRecOn with
    | nil =>
        intro before bound after split
        simp at split
    | append_singleton calls last ih =>
        have belowBefore : ∀ call ∈ calls, call.BelowMax :=
          fun call member => below call (List.mem_append_left _ member)
        have earlier : (new messageMetadata).ReapsLeaveLast keccak calls := by
          apply ih belowBefore
          intro before after split
          apply successors before (after ++ [last])
          rw [split, List.append_assoc]
        refine reapsLeaveLast_append_singleton.mpr ⟨earlier, ?_⟩
        intro bound isReap
        have window : ((new messageMetadata).runCalls keccak
            calls).Window := window_before below rfl
        have follows := earlier.follows belowBefore
        apply (window.follows_reap_iff follows).mp
        have now := successors (calls ++ [last]) [] (by simp)
        rw [isReap, lastAccepted_reap, runCalls_append_singleton] at now
        cases isLast : (new messageMetadata).lastAccepted keccak calls with
        | none =>
            rw [isLast] at follows
            have empty : ((new messageMetadata).runCalls keccak
                calls).seqNrsAndMessageHashes = [] := follows
            exact (window.follows_reap_iff follows).mpr (.inl empty)
        | some lastSeqNr =>
            exact acceptable_iff_follows.mp (now lastSeqNr isLast)
  · intro leave before after split lastSeqNr isLast
    rw [split] at leave below
    have belowBefore : ∀ call ∈ before, call.BelowMax :=
      fun call member => below call (List.mem_append_left _ member)
    have follows := leave.earlier.follows belowBefore
    rw [isLast] at follows
    exact acceptable_iff_follows.mpr follows

/-- Reaping does not change which message comes next exactly in the runs
whose reaps never lose the last sequence number. -/
theorem reaping_keeps_next_iff (keccak : Keccak)
    (messageMetadata : MessageMetadata) {calls : List WindowCall}
    (below : ∀ call ∈ calls, call.BelowMax) :
    ((new messageMetadata).ReapsKeepNext keccak calls ↔
        (new messageMetadata).ReapsLeaveLast keccak calls) ∧
      ((new messageMetadata).SuccessorsNext keccak calls ↔
        (new messageMetadata).ReapsLeaveLast keccak calls) :=
  ⟨reapsKeepNext_iff below, successorsNext_iff below⟩

theorem reapedBetween_leavesLast :
    (new firstLaneMetadata).ReapsLeaveLast lengthHash reapedBetween := by
  rintro (_ | ⟨_, _ | ⟨_, _ | ⟨_, _ | ⟨_, _ | ⟨_, _⟩⟩⟩⟩⟩) bound after split
    <;> simp [reapedBetween, sending] at split
  obtain ⟨rfl, rfl, rfl, _⟩ := split
  decide +kernel

/-- A reap that leaves a message keeps what comes next. -/
theorem reaping_keeps_next_reapedBetween :
    (new firstLaneMetadata).ReapsKeepNext lengthHash reapedBetween ∧
      (new firstLaneMetadata).SuccessorsNext lengthHash reapedBetween := by
  obtain ⟨keeps, successors⟩ := reaping_keeps_next_iff lengthHash
    firstLaneMetadata reapedBetween_belowMax
  exact ⟨keeps.mpr reapedBetween_leavesLast,
    successors.mpr reapedBetween_leavesLast⟩

def sentThenReaped : List WindowCall := [sending 1, .reap 1]

def afterFirstSend : SourceBlessState :=
  (new firstLaneMetadata).runCalls lengthHash [sending 1]

def secondSend : CcipSendRequestedEventUnion :=
  numberedSend lengthHash firstLaneMetadata 2

/-- After the only message is reaped, its successor is refused and the same
message is accepted again. -/
theorem reaping_restarts_numbers :
    (new firstLaneMetadata).lastAccepted lengthHash sentThenReaped = some 1 ∧
      afterFirstSend.Accepts lengthHash ⟨.evm2EvmV1_0⟩ secondSend ∧
      ¬(afterFirstSend.tryReapUpTo 1).Accepts lengthHash ⟨.evm2EvmV1_0⟩
        secondSend ∧
      (afterFirstSend.tryReapUpTo 1).Accepts lengthHash ⟨.evm2EvmV1_0⟩
        firstSend ∧
      ¬afterFirstSend.ReapKeepsNext lengthHash 1 ∧
      ¬(new firstLaneMetadata).ReapsKeepNext lengthHash sentThenReaped ∧
      ¬(new firstLaneMetadata).SuccessorsNext lengthHash sentThenReaped := by
  have below : ∀ call ∈ sentThenReaped, call.BelowMax := by
    intro call member
    apply reapedBetween_belowMax
    simp only [sentThenReaped, List.mem_cons, List.not_mem_nil, or_false]
      at member
    rcases member with rfl | rfl <;> simp [reapedBetween]
  have window : afterFirstSend.Window :=
    window_before below (show sentThenReaped = [sending 1] ++ _ from rfl)
  have numbers :
      afterFirstSend.seqNrsAndMessageHashes.map Prod.fst = [1] := by
    decide +kernel
  obtain ⟨⟨seqNr, hash⟩, entries, rfl⟩ := List.map_eq_singleton_iff.mp numbers
  have lost : ¬afterFirstSend.LeavesLast 1 := by
    rw [LeavesLast, entries]
    simp
  have lostInRun : ¬(new firstLaneMetadata).ReapsLeaveLast lengthHash
      sentThenReaped := by
    intro leave
    exact lost (leave [sending 1] 1 [] rfl)
  refine ⟨by decide +kernel, by decide +kernel, by decide +kernel,
    by decide +kernel, ?_, ?_, ?_⟩
  · intro keeps
    exact lost (window.reapKeepsNext_iff.mp keeps)
  · intro keep
    exact lostInRun ((reapsKeepNext_iff below).mp keep)
  · intro successors
    exact lostInRun ((successorsNext_iff below).mp successors)

end SourceBlessState

end RiskManagement
