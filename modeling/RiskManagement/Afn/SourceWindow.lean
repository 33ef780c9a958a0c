import RiskManagement.Library.NumberedRun
import RiskManagement.Afn.SourceBlessState

/-!
# The window of source messages

The entries always carry consecutive sequence numbers, so both lookups by
offset find exactly the entries with the wanted numbers.
-/

namespace RiskManagement

open NumberedRun

namespace SourceBlessState

/-- The sequence number of an entry. -/
def entryNumber (entry : UInt64 × Bytes32) : Nat := entry.1.toNat

/-- The entries carry consecutive sequence numbers. -/
abbrev WindowFrom (first : Nat) (state : SourceBlessState) : Prop :=
  Numbered entryNumber first state.seqNrsAndMessageHashes

/-- Consecutive sequence numbers from one on, none of which is the largest
word. -/
structure Window (state : SourceBlessState) : Prop where
  consecutive : ∃ first, state.WindowFrom first
  positive : ∀ entry ∈ state.seqNrsAndMessageHashes, entry.1 ≠ 0
  small : ∀ entry ∈ state.seqNrsAndMessageHashes,
    entry.1 ≠ Word64.maxValue

variable {state : SourceBlessState} {first : Nat}

/-! ### Lookups -/

theorem WindowFrom.head?_eq_some (window : state.WindowFrom first)
    {initialSeqNr : UInt64} {hash : Bytes32}
    (found : state.seqNrsAndMessageHashes.head? = some (initialSeqNr, hash)) :
    initialSeqNr.toNat = first := by
  rw [List.head?_eq_getElem?] at found
  have isHead := (window.getElem?_eq_some_iff (Nat.le_refl first)).mp
    (by rw [Nat.sub_self]; exact found)
  exact isHead.2

theorem WindowFrom.head?_isSome (window : state.WindowFrom first)
    {entry : UInt64 × Bytes32}
    (member : entry ∈ state.seqNrsAndMessageHashes) :
    ∃ initialSeqNr hash,
      state.seqNrsAndMessageHashes.head? = some (initialSeqNr, hash) ∧
        initialSeqNr.toNat = first := by
  cases isHead : state.seqNrsAndMessageHashes.head? with
  | none =>
      rw [List.head?_eq_none_iff] at isHead
      rw [isHead] at member
      exact absurd member List.not_mem_nil
  | some entry => exact ⟨entry.1, entry.2, rfl, window.head?_eq_some isHead⟩

/-- The lookup of one hash finds the entry with the sequence number. -/
theorem WindowFrom.messageHash_eq_some_iff (window : state.WindowFrom first)
    {seqNr : UInt64} {hash : Bytes32} :
    state.messageHash seqNr = some hash ↔
      (seqNr, hash) ∈ state.seqNrsAndMessageHashes := by
  simp only [messageHash, bind, Option.bind_eq_some_iff, pure,
    Option.some.injEq, Prod.exists]
  constructor
  · rintro ⟨minSeqNr, minHash, isHead, idx, isIdx, foundNr, found, entry,
      rfl⟩
    have isFirst := window.head?_eq_some isHead
    rw [Word64.checkedSub_eq_some_iff] at isIdx
    have offset : idx.toNat = seqNr.toNat - first := by omega
    rw [offset] at entry
    obtain ⟨member, sameNumber⟩ :=
      (window.getElem?_eq_some_iff (by omega)).mp entry
    have same : foundNr = seqNr := UInt64.toNat_inj.mp sameNumber
    rw [← same]
    exact member
  · intro member
    obtain ⟨minSeqNr, minHash, isHead, isFirst⟩ := window.head?_isSome member
    have atLeast : first ≤ seqNr.toNat := (window.range_of_mem member).1
    have entry := (window.getElem?_eq_some_iff atLeast).mpr ⟨member, rfl⟩
    have order : minSeqNr ≤ seqNr := by
      rw [UInt64.le_iff_toNat_le]
      omega
    refine ⟨minSeqNr, minHash, isHead, seqNr - minSeqNr,
      Word64.checkedSub_of_le order, seqNr, hash, ?_, rfl⟩
    rw [UInt64.toNat_sub_of_le _ _ order, isFirst]
    exact entry

/-- The hashes are those of exactly the interval's sequence numbers, in
order. -/
def HoldsInterval (state : SourceBlessState) (interval : Interval)
    (hashes : List Bytes32) : Prop :=
  List.Forall₂
    (fun seqNr hash =>
      (UInt64.ofNat seqNr, hash) ∈ state.seqNrsAndMessageHashes)
    (List.range' interval.min.toNat
      (interval.max.toNat - interval.min.toNat + 1))
    hashes

theorem mem_entries_iff {wanted : Nat} (fits : wanted < 2 ^ 64)
    {hash : Bytes32} :
    (UInt64.ofNat wanted, hash) ∈ state.seqNrsAndMessageHashes ↔
      ∃ entry ∈ state.seqNrsAndMessageHashes,
        entryNumber entry = wanted ∧ entry.2 = hash := by
  have isWanted : (UInt64.ofNat wanted).toNat = wanted :=
    Nat.mod_eq_of_lt fits
  constructor
  · intro member
    exact ⟨_, member, isWanted, rfl⟩
  · rintro ⟨⟨seqNr, _⟩, member, isNumber, rfl⟩
    have same : seqNr = UInt64.ofNat wanted := by
      rw [← UInt64.toNat_inj, isWanted]
      exact isNumber
    rw [← same]
    exact member

theorem WindowFrom.holdsInterval_iff (window : state.WindowFrom first)
    {interval : Interval} {hashes : List Bytes32}
    (order : interval.min ≤ interval.max) :
    state.HoldsInterval interval hashes ↔
      first ≤ interval.min.toNat ∧
        interval.max.toNat - first < state.seqNrsAndMessageHashes.length ∧
        hashes = ((state.seqNrsAndMessageHashes.take
          (interval.max.toNat - first + 1)).drop
            (interval.min.toNat - first)).map Prod.snd := by
  have natOrder := UInt64.le_iff_toNat_le.mp order
  have bound := interval.max.toNat_lt
  rw [← window.values_iff Prod.snd natOrder, HoldsInterval,
    List.forall₂_iff_get, List.forall₂_iff_get]
  constructor
  · rintro ⟨sameLength, all⟩
    refine ⟨sameLength, ?_⟩
    intro index inRange inHashes
    rw [← mem_entries_iff]
    · exact all index inRange inHashes
    · rw [List.length_range'] at inRange
      simp
      omega
  · rintro ⟨sameLength, all⟩
    refine ⟨sameLength, ?_⟩
    intro index inRange inHashes
    rw [mem_entries_iff]
    · exact all index inRange inHashes
    · rw [List.length_range'] at inRange
      simp
      omega

/-- The lookup of an interval finds its hashes when all are held. -/
theorem WindowFrom.getMessageHashes_eq_some_iff
    (window : state.WindowFrom first) {interval : Interval}
    {hashes : List Bytes32} :
    state.getMessageHashes interval = some hashes ↔
      interval.min ≤ interval.max ∧ state.HoldsInterval interval hashes := by
  have maxFits := interval.max.toNat_lt
  simp only [getMessageHashes, bind, Option.bind_eq_some_iff, Prod.exists,
    Word64.checkedSub_eq_some_iff, Word64.checkedAdd_eq_some_iff]
  constructor
  · rintro ⟨initialSeqNr, _, isHead, startIndex, start, width, extent,
      endIndex, stop, found⟩
    have isFirst := window.head?_eq_some isHead
    split at found
    · cases found
    · rename_i inside
      cases found
      have order : interval.min ≤ interval.max := by
        rw [UInt64.le_iff_toNat_le]
        omega
      refine ⟨order, (window.holdsInterval_iff order).mpr ?_⟩
      have isStart : startIndex.toNat = interval.min.toNat - first := by
        omega
      have isEnd : endIndex.toNat = interval.max.toNat - first := by omega
      rw [isStart, isEnd]
      exact ⟨by omega, by omega, rfl⟩
  · rintro ⟨order, holds⟩
    obtain ⟨atLeast, inside, rfl⟩ := (window.holdsInterval_iff order).mp holds
    have natOrder := UInt64.le_iff_toNat_le.mp order
    have nonempty : 0 < state.seqNrsAndMessageHashes.length := by omega
    obtain ⟨initialSeqNr, hash, isHead, isFirst⟩ :=
      window.head?_isSome (List.getElem_mem nonempty)
    have startOrder : initialSeqNr ≤ interval.min := by
      rw [UInt64.le_iff_toNat_le]
      omega
    have endOrder := UInt64.le_trans startOrder order
    have start := UInt64.toNat_sub_of_le _ _ startOrder
    have width := UInt64.toNat_sub_of_le _ _ order
    have stop := UInt64.toNat_sub_of_le _ _ endOrder
    refine ⟨initialSeqNr, hash, isHead, interval.min - initialSeqNr,
      by omega, interval.max - interval.min, by omega,
      interval.max - initialSeqNr, by omega, ?_⟩
    rw [if_neg (by omega), start, stop, isFirst]
    rfl

theorem HoldsInterval.mem {interval : Interval} {hashes : List Bytes32}
    (holds : state.HoldsInterval interval hashes) {seqNr : UInt64}
    (lower : interval.min ≤ seqNr) (upper : seqNr ≤ interval.max) :
    ∃ hash, (seqNr, hash) ∈ state.seqNrsAndMessageHashes := by
  rw [UInt64.le_iff_toNat_le] at lower upper
  have sameLength := holds.length_eq
  rw [List.length_range'] at sameLength
  have inRange : seqNr.toNat - interval.min.toNat <
      (List.range' interval.min.toNat
        (interval.max.toNat - interval.min.toNat + 1)).length := by
    rw [List.length_range']
    omega
  have inHashes : seqNr.toNat - interval.min.toNat < hashes.length := by
    omega
  have member := holds.get inRange inHashes
  refine ⟨hashes[seqNr.toNat - interval.min.toNat], ?_⟩
  have isSeqNr : UInt64.ofNat (interval.min.toNat +
      (seqNr.toNat - interval.min.toNat)) = seqNr := by
    rw [Nat.add_sub_cancel' lower, UInt64.ofNat_toNat]
  rw [List.get_eq_getElem, List.getElem_range', Nat.one_mul, isSeqNr]
    at member
  exact member

/-- An interval is held when each of its sequence numbers is. -/
theorem WindowFrom.exists_holdsInterval_iff
    (window : state.WindowFrom first) {interval : Interval}
    (order : interval.min ≤ interval.max) :
    (∃ hashes, state.HoldsInterval interval hashes) ↔
      ∀ seqNr, interval.min ≤ seqNr → seqNr ≤ interval.max →
        ∃ hash, (seqNr, hash) ∈ state.seqNrsAndMessageHashes := by
  constructor
  · rintro ⟨hashes, holds⟩ seqNr lower upper
    exact holds.mem lower upper
  · intro all
    obtain ⟨lowest, lowestMember⟩ :=
      all interval.min (UInt64.le_refl _) order
    obtain ⟨highest, highestMember⟩ :=
      all interval.max order (UInt64.le_refl _)
    have atLeast := (window.range_of_mem lowestMember).1
    have below := (window.range_of_mem highestMember).2
    have natOrder := UInt64.le_iff_toNat_le.mp order
    rw [entryNumber] at atLeast below
    refine ⟨_, (window.holdsInterval_iff order).mpr ⟨atLeast, ?_, rfl⟩⟩
    dsimp only at below atLeast
    omega

/-- The hashes of an interval are what the lookup of each number finds. -/
theorem WindowFrom.map_messageHash (window : state.WindowFrom first)
    {interval : Interval} {hashes : List Bytes32}
    (holds : state.HoldsInterval interval hashes) :
    hashes.map some =
      (List.range' interval.min.toNat
        (interval.max.toNat - interval.min.toNat + 1)).map
          fun seqNr => state.messageHash (.ofNat seqNr) := by
  rw [HoldsInterval] at holds
  generalize List.range' _ _ = seqNrs at holds ⊢
  induction holds with
  | nil => rfl
  | cons member _ induction =>
      rw [List.map_cons, List.map_cons, induction,
        window.messageHash_eq_some_iff.mpr member]

/-! ### Steps -/

/-- `update_with_event` on the state in place: each `bail` leaves it as it is
then. -/
def update (self : SourceBlessState) (keccak : Keccak)
    (filter : VersionedCcipSendRequestFilter)
    (ev : CcipSendRequestedEventUnion) :
    SourceBlessState × Except StateError Unit :=
  match self.readEvent keccak filter.laneType ev with
  | .error error => (self, .error error)
  | .ok (seqNr, msgHash, msgId) =>
      if msgHash ≠ msgId then
        (self, .error (.hashMismatch seqNr msgHash msgId))
      else
        match self.checkContiguous seqNr with
        | .error error => (self, .error error)
        | .ok () =>
            ({ self with
              seqNrsAndMessageHashes :=
                self.seqNrsAndMessageHashes ++ [(seqNr, msgHash)] }, .ok ())

/-- A rejected event leaves the state unchanged, an accepted one is applied. -/
theorem update_eq (self : SourceBlessState) (keccak : Keccak)
    (filter : VersionedCcipSendRequestFilter)
    (ev : CcipSendRequestedEventUnion) :
    self.update keccak filter ev =
      match self.updateWithEvent keccak filter ev with
      | .error error => (self, .error error)
      | .ok next => (next, .ok ()) := by
  rw [update, updateWithEvent]
  cases reads : self.readEvent keccak filter.laneType ev with
  | error error => rfl
  | ok read =>
      obtain ⟨seqNr, msgHash, msgId⟩ := read
      simp only [bind, Except.bind]
      split
      · rfl
      · cases contiguous : self.checkContiguous seqNr with
        | error error => rfl
        | ok done => rfl

theorem Window.number_next (window : state.Window) {seqNr : UInt64}
    (contiguous : state.checkContiguous seqNr = .ok ()) (hash : Bytes32) :
    seqNr ≠ 0 ∧ ∃ first, Numbered entryNumber first
      (state.seqNrsAndMessageHashes ++ [(seqNr, hash)]) := by
  obtain ⟨first, numbered⟩ := window.consecutive
  rw [checkContiguous] at contiguous
  cases isLast : state.seqNrsAndMessageHashes.getLast? with
  | none =>
      rw [List.getLast?_eq_none_iff] at isLast
      have isFirst : seqNr = 1 := by simpa [isLast] using contiguous
      subst isFirst
      refine ⟨by decide, 1, ?_⟩
      rw [isLast, List.nil_append]
      exact numbered_cons.mpr ⟨rfl, numbered_nil⟩
  | some last =>
      obtain ⟨lastSeqNr, lastHash⟩ := last
      obtain ⟨earlier, isEntries⟩ := List.getLast?_eq_some_iff.mp isLast
      have lastSmall : lastSeqNr ≠ Word64.maxValue :=
        window.small (lastSeqNr, lastHash) (List.mem_of_getLast? isLast)
      have isNext : lastSeqNr + 1 = seqNr := by
        simpa [isLast] using contiguous
      rw [Word64.add_one_eq_iff lastSmall] at isNext
      constructor
      · rintro rfl
        cases isNext
      · refine ⟨first, numbered_append_singleton.mpr ⟨numbered, ?_⟩⟩
        rw [WindowFrom, isEntries, numbered_append_singleton] at numbered
        have lastNumber : lastSeqNr.toNat = first + earlier.length :=
          numbered.2
        rw [isEntries, List.length_append, List.length_singleton]
        change seqNr.toNat = first + (earlier.length + 1)
        omega

theorem Window.update_ok {keccak : Keccak}
    {filter : VersionedCcipSendRequestFilter}
    {ev : CcipSendRequestedEventUnion} {next : SourceBlessState}
    (window : state.Window)
    (below : ev.message.sequenceNumber ≠ Word64.maxValue)
    (accepted : state.updateWithEvent keccak filter ev = .ok next) :
    next.Window := by
  obtain ⟨_, contiguous, rfl⟩ := updateWithEvent_eq_ok accepted
  obtain ⟨positive, numbered⟩ :=
    window.number_next contiguous ev.message.messageId
  constructor
  · exact numbered
  · intro entry member
    rcases List.mem_append.mp member with old | new
    · exact window.positive entry old
    · rw [List.mem_singleton.mp new]
      exact positive
  · intro entry member
    rcases List.mem_append.mp member with old | new
    · exact window.small entry old
    · rw [List.mem_singleton.mp new]
      exact below

/-- The numbers of a window go up, so the search for the bound finds it. -/
theorem WindowFrom.tryReapUpTo_entries (window : state.WindowFrom first)
    (seqNr : UInt64) :
    (state.tryReapUpTo seqNr).seqNrsAndMessageHashes =
      state.seqNrsAndMessageHashes.dropWhile
        fun entry => entryNumber entry ≤ seqNr.toNat := by
  have partitioned : PartitionPoint.Partitioned
      (fun entry : UInt64 × Bytes32 => decide (entry.1 ≤ seqNr))
      state.seqNrsAndMessageHashes := by
    apply window.pairwise_lt.imp
    intro earlier later order notAbove
    rw [decide_eq_true_iff, UInt64.le_iff_toNat_le] at notAbove ⊢
    exact Nat.le_trans (Nat.le_of_lt order) notAbove
  exact partitioned.drop_partitionPoint

/-- Reaping removes exactly the entries up to the sequence number. -/
theorem Window.mem_tryReapUpTo_iff (window : state.Window) {seqNr : UInt64}
    {entry : UInt64 × Bytes32} :
    entry ∈ (state.tryReapUpTo seqNr).seqNrsAndMessageHashes ↔
      entry ∈ state.seqNrsAndMessageHashes ∧ seqNr < entry.1 := by
  obtain ⟨first, numbered⟩ := window.consecutive
  rw [numbered.tryReapUpTo_entries, numbered.mem_dropWhile_iff,
    UInt64.lt_iff_toNat_lt]
  rfl

theorem Window.tryReapUpTo (window : state.Window) (seqNr : UInt64) :
    (state.tryReapUpTo seqNr).Window := by
  constructor
  · obtain ⟨first, numbered⟩ := window.consecutive
    rcases numbered.dropWhile seqNr.toNat with later | empty
    · refine ⟨max first (seqNr.toNat + 1), ?_⟩
      rw [WindowFrom, numbered.tryReapUpTo_entries]
      exact later
    · refine ⟨first, ?_⟩
      rw [WindowFrom, numbered.tryReapUpTo_entries, empty]
      exact numbered_nil
  · intro entry member
    exact window.positive entry (window.mem_tryReapUpTo_iff.mp member).1
  · intro entry member
    exact window.small entry (window.mem_tryReapUpTo_iff.mp member).1

end SourceBlessState

/-! ### Runs -/

/-- A call that changes the state. -/
inductive WindowCall where
  | update (filter : VersionedCcipSendRequestFilter)
      (ev : CcipSendRequestedEventUnion)
  | reap (seqNr : UInt64)

/-- An event's sequence number is below the largest word. -/
def WindowCall.BelowMax : WindowCall → Prop
  | .update _ ev => ev.message.sequenceNumber < Word64.maxValue
  | .reap _ => True

namespace SourceBlessState

variable {keccak : Keccak} {state : SourceBlessState}

def call (keccak : Keccak) (self : SourceBlessState) :
    WindowCall → SourceBlessState
  | .update filter ev => (self.update keccak filter ev).1
  | .reap seqNr => self.tryReapUpTo seqNr

/-- The state after several calls. -/
def runCalls (self : SourceBlessState) (keccak : Keccak)
    (calls : List WindowCall) : SourceBlessState :=
  calls.foldl (call keccak) self

/-- Some event with the sequence number and hash was accepted, and no later
reap reached the sequence number. -/
def HeldAfter (initial : SourceBlessState) (keccak : Keccak)
    (calls : List WindowCall) (seqNr : UInt64) (hash : Bytes32) : Prop :=
  ∃ before filter ev after, calls = before ++ .update filter ev :: after ∧
    ((initial.runCalls keccak before).update keccak filter ev).2 = .ok () ∧
    ev.message.sequenceNumber = seqNr ∧
    (ev.message.hash keccak initial.messageMetadata).value = hash ∧
    ∀ bound, .reap bound ∈ after → bound < seqNr

theorem runCalls_append_singleton (initial : SourceBlessState)
    (calls : List WindowCall) (last : WindowCall) :
    initial.runCalls keccak (calls ++ [last]) =
      (initial.runCalls keccak calls).call keccak last := by
  rw [runCalls, List.foldl_append]
  rfl

theorem call_messageMetadata (self : SourceBlessState) (last : WindowCall) :
    (self.call keccak last).messageMetadata = self.messageMetadata := by
  cases last with
  | update filter ev =>
      rw [call, update_eq]
      cases accepted : self.updateWithEvent keccak filter ev with
      | error error => rfl
      | ok next =>
          obtain ⟨_, _, rfl⟩ := updateWithEvent_eq_ok accepted
          rfl
  | reap seqNr => rfl

theorem runCalls_messageMetadata (initial : SourceBlessState)
    (calls : List WindowCall) :
    (initial.runCalls keccak calls).messageMetadata =
      initial.messageMetadata := by
  induction calls using List.reverseRecOn with
  | nil => rfl
  | append_singleton calls last induction =>
      rw [runCalls_append_singleton, call_messageMetadata, induction]

/-- One more call either is the accepting one or comes after it. -/
theorem heldAfter_append_singleton {initial : SourceBlessState}
    {calls : List WindowCall} {last : WindowCall} {seqNr : UInt64}
    {hash : Bytes32} :
    initial.HeldAfter keccak (calls ++ [last]) seqNr hash ↔
      (initial.HeldAfter keccak calls seqNr hash ∧
          ∀ bound, last = .reap bound → bound < seqNr) ∨
        ∃ filter ev, last = .update filter ev ∧
          ((initial.runCalls keccak calls).update keccak filter ev).2 =
            .ok () ∧
          ev.message.sequenceNumber = seqNr ∧
          (ev.message.hash keccak initial.messageMetadata).value = hash := by
  constructor
  · rintro ⟨before, filter, ev, after, split, accepted, isNr, isHash,
      notReaped⟩
    rcases List.eq_nil_or_concat after with rfl | ⟨later, final, rfl⟩
    · obtain ⟨rfl, same⟩ := List.append_inj' split rfl
      exact .inr ⟨filter, ev, List.singleton_inj.mp same, accepted, isNr,
        isHash⟩
    · rw [List.concat_eq_append] at split notReaped
      rw [← List.cons_append, ← List.append_assoc] at split
      obtain ⟨rfl, same⟩ := List.append_inj' split rfl
      have isFinal := List.singleton_inj.mp same
      refine .inl ⟨⟨before, filter, ev, later, rfl, accepted, isNr, isHash,
        ?_⟩, ?_⟩
      · intro bound member
        exact notReaped bound (List.mem_append_left _ member)
      · intro bound isReap
        apply notReaped bound
        rw [← isFinal, isReap]
        simp
  · rintro (⟨⟨before, filter, ev, later, rfl, accepted, isNr, isHash,
      notReaped⟩, notNow⟩ | ⟨filter, ev, rfl, accepted, isNr, isHash⟩)
    · refine ⟨before, filter, ev, later ++ [last], by simp, accepted, isNr,
        isHash, ?_⟩
      intro bound member
      rcases List.mem_append.mp member with earlier | now
      · exact notReaped bound earlier
      · exact notNow bound (List.mem_singleton.mp now).symm
    · exact ⟨calls, filter, ev, [], rfl, accepted, isNr, isHash, by simp⟩

theorem Window.call (window : state.Window) {last : WindowCall}
    (below : last.BelowMax) : (state.call keccak last).Window := by
  cases last with
  | update filter ev =>
      rw [SourceBlessState.call, update_eq]
      cases accepted : state.updateWithEvent keccak filter ev with
      | error error => exact window
      | ok next =>
          exact window.update_ok (Word64.ne_maxValue_of_lt below) accepted
  | reap seqNr => exact window.tryReapUpTo seqNr

theorem Window.mem_call_iff (window : state.Window) {last : WindowCall}
    {seqNr : UInt64} {hash : Bytes32} :
    (seqNr, hash) ∈ (state.call keccak last).seqNrsAndMessageHashes ↔
      ((seqNr, hash) ∈ state.seqNrsAndMessageHashes ∧
          ∀ bound, last = .reap bound → bound < seqNr) ∨
        ∃ filter ev, last = .update filter ev ∧
          (state.update keccak filter ev).2 = .ok () ∧
          ev.message.sequenceNumber = seqNr ∧
          (ev.message.hash keccak state.messageMetadata).value = hash := by
  cases last with
  | reap bound =>
      rw [SourceBlessState.call, window.mem_tryReapUpTo_iff]
      simp
  | update filter ev =>
      have updated := state.update_eq keccak filter ev
      rw [SourceBlessState.call]
      cases accepted : state.updateWithEvent keccak filter ev with
      | error error =>
          rw [accepted] at updated
          simp [updated]
      | ok next =>
          obtain ⟨isHash, _, rfl⟩ := updateWithEvent_eq_ok accepted
          rw [accepted] at updated
          simp [updated, isHash, eq_comm]

theorem new_window (messageMetadata : MessageMetadata) :
    (new messageMetadata).Window :=
  ⟨⟨0, numbered_nil⟩, fun _ member => absurd member List.not_mem_nil,
    fun _ member => absurd member List.not_mem_nil⟩

/-- The entries of a run are the accepted events that no reap reached. -/
theorem runCalls_window (keccak : Keccak)
    (messageMetadata : MessageMetadata) {calls : List WindowCall}
    (below : ∀ call ∈ calls, call.BelowMax) :
    ((new messageMetadata).runCalls keccak calls).Window ∧
      ∀ seqNr hash,
        (seqNr, hash) ∈ ((new messageMetadata).runCalls keccak
            calls).seqNrsAndMessageHashes ↔
          (new messageMetadata).HeldAfter keccak calls seqNr hash := by
  induction calls using List.reverseRecOn with
  | nil =>
      refine ⟨new_window messageMetadata, ?_⟩
      intro seqNr hash
      simp [runCalls, new, HeldAfter]
  | append_singleton calls last induction =>
      have belowBefore : ∀ call ∈ calls, call.BelowMax :=
        fun call member => below call (List.mem_append_left _ member)
      obtain ⟨window, entries⟩ := induction belowBefore
      have lastBelow : last.BelowMax := below last (by simp)
      rw [runCalls_append_singleton]
      refine ⟨window.call lastBelow, ?_⟩
      intro seqNr hash
      rw [heldAfter_append_singleton, ← entries, window.mem_call_iff,
        runCalls_messageMetadata]

/-- What the state says after some calls on a new one. -/
structure ExactWindow (keccak : Keccak) (messageMetadata : MessageMetadata)
    (calls : List WindowCall) (state : SourceBlessState) : Prop where
  consecutive : ∃ first,
    state.seqNrsAndMessageHashes.map (fun entry => entry.1.toNat) =
      List.range' first state.seqNrsAndMessageHashes.length
  rejected_unchanged : ∀ filter ev error,
    (state.update keccak filter ev).2 = .error error →
      (state.update keccak filter ev).1 = state
  messageHash_iff : ∀ seqNr hash, state.messageHash seqNr = some hash ↔
    (new messageMetadata).HeldAfter keccak calls seqNr hash
  getMessageHashes_iff : ∀ interval,
    (state.getMessageHashes interval).isSome = true ↔
      interval.min ≤ interval.max ∧
        ∀ seqNr, interval.min ≤ seqNr → seqNr ≤ interval.max →
          (state.messageHash seqNr).isSome = true
  hashes_in_order : ∀ interval hashes,
    state.getMessageHashes interval = some hashes →
      hashes.length = interval.max.toNat - interval.min.toNat + 1 ∧
        hashes.map some =
          (List.range' interval.min.toNat
            (interval.max.toNat - interval.min.toNat + 1)).map
              fun seqNr => state.messageHash (.ofNat seqNr)

/-- The window holds what was accepted and not reaped since, whatever calls
were made before. -/
theorem source_window_exact (keccak : Keccak)
    (messageMetadata : MessageMetadata) {calls : List WindowCall}
    (below : ∀ call ∈ calls, call.BelowMax) :
    ((new messageMetadata).runCalls keccak calls).ExactWindow keccak
      messageMetadata calls := by
  obtain ⟨⟨⟨first, numbered⟩, _, _⟩, entries⟩ :=
    runCalls_window keccak messageMetadata below
  constructor
  · exact ⟨first, numbered⟩
  · intro filter ev error rejected
    rw [update_eq] at rejected ⊢
    cases accepted : ((new messageMetadata).runCalls keccak
        calls).updateWithEvent keccak filter ev with
    | error error => rfl
    | ok next =>
        rw [accepted] at rejected
        cases rejected
  · intro seqNr hash
    rw [numbered.messageHash_eq_some_iff]
    exact entries seqNr hash
  · intro interval
    simp only [Option.isSome_iff_exists,
      numbered.getMessageHashes_eq_some_iff,
      numbered.messageHash_eq_some_iff, exists_and_left]
    constructor
    · rintro ⟨order, holds⟩
      exact ⟨order, (numbered.exists_holdsInterval_iff order).mp holds⟩
    · rintro ⟨order, all⟩
      exact ⟨order, (numbered.exists_holdsInterval_iff order).mpr all⟩
  · intro interval hashes found
    obtain ⟨_, holds⟩ := numbered.getMessageHashes_eq_some_iff.mp found
    have sameLength := holds.length_eq
    rw [List.length_range'] at sameLength
    exact ⟨sameLength.symm, numbered.map_messageHash holds⟩

def firstSend : CcipSendRequestedEventUnion :=
  numberedSend lengthHash firstLaneMetadata 1

/-- The sending of a numbered message on the lane of the examples. -/
def sending (seqNr : UInt64) : WindowCall :=
  .update ⟨.evm2EvmV1_0⟩ (numberedSend lengthHash firstLaneMetadata seqNr)

/-- The first two messages are sent, a reap takes the first one, and the third
one is sent, before which the second one is refused. -/
def reapedBetween : List WindowCall :=
  [sending 1, sending 2, .reap 1, sending 2, sending 3]

theorem reapedBetween_belowMax :
    ∀ call ∈ reapedBetween, call.BelowMax := by
  intro call member
  simp only [reapedBetween, sending, List.mem_cons, List.not_mem_nil,
    or_false] at member
  rcases member with rfl | rfl | rfl | rfl | rfl
  · exact show (1 : UInt64) < Word64.maxValue by decide
  · exact show (2 : UInt64) < Word64.maxValue by decide
  · trivial
  · exact show (2 : UInt64) < Word64.maxValue by decide
  · exact show (3 : UInt64) < Word64.maxValue by decide

theorem source_window_exact_reapedBetween :
    ((new firstLaneMetadata).runCalls lengthHash reapedBetween).ExactWindow
        lengthHash firstLaneMetadata reapedBetween ∧
      ((new firstLaneMetadata).runCalls lengthHash
        reapedBetween).seqNrsAndMessageHashes.map Prod.fst = [2, 3] :=
  ⟨source_window_exact lengthHash firstLaneMetadata reapedBetween_belowMax,
    by decide +kernel⟩

end SourceBlessState

end RiskManagement
