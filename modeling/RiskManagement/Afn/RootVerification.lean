import RiskManagement.Afn.SourceWindow

/-!
# Root verification is exact

`verify_root_with_interval` for the states that accepted events lead to: which
intervals it decides, and that none of its unchecked operations can fail.
-/

namespace RiskManagement

open NumberedRun

/-! ### Unchecked operations

The functions below are those of the source with every operation that may
panic, where `none` is the panic. -/

/-- `VecDeque::range` of an inclusive range. -/
def rangeInclusive {α : Type} (entries : List α) (start stop : Nat) :
    Option (List α) :=
  if start ≤ stop + 1 ∧ stop < entries.length then
    some ((entries.take (stop + 1)).drop start)
  else
    none

/-- The indices of an interval, when the checked arithmetic succeeds. -/
def SourceBlessState.intervalIndices (self : SourceBlessState)
    (interval : Interval) : Option (UInt64 × UInt64) := do
  let (initialSeqNr, _) ← self.seqNrsAndMessageHashes.head?
  let startIndex ← Word64.checkedSub interval.min initialSeqNr
  let endIndex ← Word64.checkedAdd startIndex
    (← Word64.checkedSub interval.max interval.min)
  return (startIndex, endIndex)

def SourceBlessState.getMessageHashesOrPanic (self : SourceBlessState)
    (interval : Interval) : Option (Option (List Bytes32)) :=
  match self.intervalIndices interval with
  | none => some none
  | some (startIndex, endIndex) =>
      if endIndex.toNat ≥ self.seqNrsAndMessageHashes.length then
        some none
      else do
        let range ← rangeInclusive self.seqNrsAndMessageHashes
          startIndex.toNat endIndex.toNat
        return some (range.map Prod.snd)

/-- The pops of `root_from_hashed_leafs` unwrap. -/
def rootFromHashedLeafsOrPanic (hash : Bytes32 × Bytes32 → Bytes32)
    (hashedLeafs : List Bytes32) : Option (Option Bytes32) := do
  let final ← hashLeafs hash hashedLeafs
  return final.level.head?

def computeMerkleRootOrPanic (keccak : Keccak) (interval : Interval)
    (reader : SourceBlessState) :
    Option (Except ComputeMerkleRootError Bytes32) := do
  if ¬isValidInterval interval then
    return .error (.invalidInterval interval)
  else
    match ← reader.getMessageHashesOrPanic interval with
    | none => return .error (.failedToGetMessageHashes interval)
    | some leaves =>
        let width ← Word64.checkedSub interval.max interval.min
        let expectedNumLeaves ← Word64.checkedAdd width 1
        if UInt64.ofNat leaves.length ≠ expectedNumLeaves then
          return .error (.incorrectNumberOfMessages interval
            expectedNumLeaves leaves.length)
        else
          match ← rootFromHashedLeafsOrPanic (hashSortedPair keccak)
            leaves with
          | none => return .error (.failedToComputeRoot leaves)
          | some root => return .ok root

def verifyRootWithIntervalOrPanic (keccak : Keccak) (ri : RootWithInterval)
    (reader : SourceBlessState) :
    Option (Except ComputeMerkleRootError Bool) := do
  match ← computeMerkleRootOrPanic keccak ri.interval reader with
  | .error error => return .error error
  | .ok root => return .ok (ri.root = root)

/-! ### Merkle roots -/

/-- The root of the tree over the leafs, built level by level. -/
def IsMerkleRoot (keccak : Keccak) (leafs : List Bytes32) (root : Bytes32) :
    Prop :=
  ∃ pairs, PairedLevels.Builds sortPair zeroHash (hashSortedPair keccak)
    leafs pairs root

/-! ### No operation fails -/

theorem SourceBlessState.getMessageHashesOrPanic_eq (self : SourceBlessState)
    (interval : Interval) :
    self.getMessageHashesOrPanic interval =
      some (self.getMessageHashes interval) := by
  have indexed : self.getMessageHashes interval =
      (self.intervalIndices interval).bind fun (startIndex, endIndex) =>
        if endIndex.toNat ≥ self.seqNrsAndMessageHashes.length then
          none
        else
          some (((self.seqNrsAndMessageHashes.take (endIndex.toNat + 1)).drop
            startIndex.toNat).map Prod.snd) := by
    simp only [getMessageHashes, intervalIndices, bind, Option.bind_assoc]
    rfl
  rw [indexed, getMessageHashesOrPanic]
  cases isIndices : self.intervalIndices interval with
  | none => rfl
  | some indices =>
      obtain ⟨startIndex, endIndex⟩ := indices
      simp only [intervalIndices, bind, Option.bind_eq_some_iff, pure,
        Option.some.injEq, Prod.mk.injEq] at isIndices
      obtain ⟨_, _, _, _, width, _, _, stop, rfl, rfl⟩ := isIndices
      rw [Word64.checkedAdd_eq_some_iff] at stop
      rw [Option.bind_some]
      dsimp only
      split
      · rfl
      · rw [rangeInclusive, if_pos ⟨by omega, by omega⟩]
        rfl

theorem rootFromHashedLeafsOrPanic_eq
    (hash : Bytes32 × Bytes32 → Bytes32) (hashedLeafs : List Bytes32) :
    rootFromHashedLeafsOrPanic hash hashedLeafs =
      some (rootFromHashedLeafs hash hashedLeafs) := by
  have done : ∃ final, hashLeafs hash hashedLeafs = some final := by
    by_cases nonempty : hashedLeafs = []
    · subst nonempty
      refine ⟨⟨[], 0, []⟩, ?_⟩
      rw [hashLeafs, MerkleState.hashLevels]
      rfl
    · obtain ⟨final, _, _, run, _⟩ :=
        MerkleState.hashLevels_builds hash ⟨hashedLeafs, 0, []⟩ nonempty
      exact ⟨final, run⟩
  obtain ⟨final, run⟩ := done
  rw [rootFromHashedLeafsOrPanic, rootFromHashedLeafs, run]
  rfl

/-! ### States of accepted events -/

namespace SourceBlessState

variable {keccak : Keccak} {state : SourceBlessState}

/-- The entries of accepted events are numbered from one. -/
theorem Holds.windowFrom {messages : List VersionedMessage}
    (holds : state.Holds keccak messages)
    (fits : state.seqNrsAndMessageHashes.length < 2 ^ 64) :
    state.WindowFrom 1 := by
  have sameLength : state.seqNrsAndMessageHashes.length =
      messages.length := by
    rw [holds.entries, List.length_map]
  rw [WindowFrom, Numbered, sameLength, holds.entries, List.map_map]
  apply List.ext_getElem
  · rw [List.length_map, List.length_range']
  · intro index bound _
    rw [List.length_map] at bound
    rw [List.getElem_map, List.getElem_range']
    change messages[index].sequenceNumber.toNat = _
    rw [holds.sequenceNumber_getElem bound, UInt64.toNat_ofNat',
      Nat.mod_eq_of_lt (by omega)]
    omega

theorem HoldsInterval.ne_nil {interval : Interval} {hashes : List Bytes32}
    (holds : state.HoldsInterval interval hashes) : hashes ≠ [] := by
  intro empty
  have sameLength := holds.length_eq
  rw [empty, List.length_range'] at sameLength
  simp at sameLength

/-- The number of leafs that is expected, where all are held. -/
theorem expectedNumLeaves_toNat (window : state.WindowFrom 1)
    {interval : Interval} {hashes : List Bytes32}
    (order : interval.min ≤ interval.max)
    (holds : state.HoldsInterval interval hashes) :
    (interval.max - interval.min + 1).toNat = hashes.length ∧
      hashes.length < 2 ^ 64 := by
  have positive := ((window.holdsInterval_iff order).mp holds).1
  have natOrder := UInt64.le_iff_toNat_le.mp order
  have bound := interval.max.toNat_lt
  have sameLength := holds.length_eq
  rw [List.length_range'] at sameLength
  rw [UInt64.toNat_add, UInt64.toNat_sub_of_le _ _ order, UInt64.toNat_one]
  omega

/-- The root of an interval is computed when all its hashes are held. -/
theorem computeMerkleRoot_eq_ok_iff (window : state.WindowFrom 1)
    {interval : Interval} {root : Bytes32} :
    computeMerkleRoot keccak interval state = .ok root ↔
      interval.min ≤ interval.max ∧ ∃ hashes,
        state.HoldsInterval interval hashes ∧
          IsMerkleRoot keccak hashes root := by
  have lookup : ∀ hashes, OnRampReader.getMessageHashes state interval =
      some hashes ↔ interval.min ≤ interval.max ∧
        state.HoldsInterval interval hashes :=
    fun _ => window.getMessageHashes_eq_some_iff
  rw [computeMerkleRoot, isValidInterval]
  by_cases order : interval.min ≤ interval.max
  · rw [if_neg (by simpa using order)]
    cases found : OnRampReader.getMessageHashes state interval with
    | none =>
        simp only [reduceCtorEq, false_iff, not_and, not_exists]
        intro _ hashes holds
        have isSome := (lookup hashes).mpr ⟨order, holds⟩
        rw [found] at isSome
        cases isSome
    | some leaves =>
        have holds := ((lookup leaves).mp found).2
        obtain ⟨expected, small⟩ :=
          expectedNumLeaves_toNat window order holds
        have sameNumber : UInt64.ofNat leaves.length =
            interval.max - interval.min + 1 := by
          rw [← UInt64.toNat_inj, expected]
          exact Nat.mod_eq_of_lt small
        have onlyLeaves : ∀ hashes,
            state.HoldsInterval interval hashes → hashes = leaves := by
          intro hashes others
          have isSome := (lookup hashes).mpr ⟨order, others⟩
          rw [found] at isSome
          exact (Option.some.inj isSome).symm
        obtain ⟨built, isBuilt, builds⟩ := rootFromHashedLeafs_builds
          (hashSortedPair keccak) holds.ne_nil
        dsimp only
        rw [if_neg (not_not.mpr sameNumber), isBuilt]
        dsimp only
        rw [Except.ok.injEq]
        constructor
        · intro same
          exact ⟨order, leaves, holds, _, by rw [← same]; exact builds⟩
        · rintro ⟨_, hashes, others, pairs, otherBuilds⟩
          rw [onlyLeaves hashes others] at otherBuilds
          exact builds.root_unique otherBuilds
  · rw [if_pos (by simpa using order)]
    simp [order]

theorem computeMerkleRootOrPanic_eq (window : state.WindowFrom 1)
    (interval : Interval) :
    computeMerkleRootOrPanic keccak interval state =
      some (computeMerkleRoot keccak interval state) := by
  rw [computeMerkleRootOrPanic, computeMerkleRoot,
    getMessageHashesOrPanic_eq]
  split
  · rfl
  · rename_i valid
    have order : interval.min ≤ interval.max := by
      simpa [isValidInterval] using valid
    have isLookup : OnRampReader.getMessageHashes state interval =
        state.getMessageHashes interval := rfl
    rw [isLookup, Option.bind_eq_bind, Option.bind_some]
    cases found : state.getMessageHashes interval with
    | none => rfl
    | some leaves =>
        -- All are held, so the interval starts at 1 or later.
        have holds := (window.getMessageHashes_eq_some_iff.mp found).2
        have positive := ((window.holdsInterval_iff order).mp holds).1
        have natOrder := UInt64.le_iff_toNat_le.mp order
        have width := UInt64.toNat_sub_of_le _ _ order
        have bound := interval.max.toNat_lt
        have noOverflow : Word64.checkedAdd (interval.max - interval.min) 1 =
            some (interval.max - interval.min + 1) := by
          rw [Word64.checkedAdd, if_pos]
          rw [width, UInt64.toNat_one]
          omega
        dsimp only
        rw [Word64.checkedSub_of_le order, Option.bind_eq_bind,
          Option.bind_some, noOverflow, Option.bind_eq_bind,
          Option.bind_some, rootFromHashedLeafsOrPanic_eq]
        split
        · rfl
        · rw [Option.bind_some]
          cases rootFromHashedLeafs (hashSortedPair keccak) leaves with
          | none => rfl
          | some root => rfl

/-- What the verification of a root says about a state. -/
structure VerifiesExactly (keccak : Keccak) (state : SourceBlessState)
    (ri : RootWithInterval) : Prop where
  never_panics : verifyRootWithIntervalOrPanic keccak ri state =
    some (verifyRootWithInterval keccak ri state)
  ok_true_iff : verifyRootWithInterval keccak ri state = .ok true ↔
    ri.interval.min ≤ ri.interval.max ∧ ∃ hashes,
      state.HoldsInterval ri.interval hashes ∧
        IsMerkleRoot keccak hashes ri.root
  ok_false_iff : verifyRootWithInterval keccak ri state = .ok false ↔
    ri.interval.min ≤ ri.interval.max ∧ ∃ hashes,
      state.HoldsInterval ri.interval hashes ∧
        ¬IsMerkleRoot keccak hashes ri.root
  error_iff : (∃ error,
      verifyRootWithInterval keccak ri state = .error error) ↔
    ¬(ri.interval.min ≤ ri.interval.max ∧
      ∀ seqNr, ri.interval.min ≤ seqNr → seqNr ≤ ri.interval.max →
        ∃ hash, (seqNr, hash) ∈ state.seqNrsAndMessageHashes)

theorem verifyRootWithInterval_eq_ok_iff {ri : RootWithInterval}
    {isRoot : Bool} :
    verifyRootWithInterval keccak ri state = .ok isRoot ↔
      ∃ root, computeMerkleRoot keccak ri.interval state = .ok root ∧
        decide (ri.root = root) = isRoot := by
  rw [verifyRootWithInterval, Checked.bind_eq_ok_iff]
  simp only [pure, Except.pure, Except.ok.injEq]

/-- Verification fails exactly when a hash of the interval is missing. -/
theorem verifyRootWithInterval_eq_error_iff (window : state.WindowFrom 1)
    {ri : RootWithInterval} :
    (∃ error, verifyRootWithInterval keccak ri state = .error error) ↔
      ¬(ri.interval.min ≤ ri.interval.max ∧
        ∀ seqNr, ri.interval.min ≤ seqNr → seqNr ≤ ri.interval.max →
          ∃ hash, (seqNr, hash) ∈ state.seqNrsAndMessageHashes) := by
  have decided : (∃ isRoot,
      verifyRootWithInterval keccak ri state = .ok isRoot) ↔
        ri.interval.min ≤ ri.interval.max ∧
          ∃ hashes, state.HoldsInterval ri.interval hashes := by
    simp only [verifyRootWithInterval_eq_ok_iff,
      computeMerkleRoot_eq_ok_iff window]
    constructor
    · rintro ⟨_, _, ⟨order, hashes, holds, _⟩, _⟩
      exact ⟨order, hashes, holds⟩
    · rintro ⟨order, hashes, holds⟩
      obtain ⟨root, _, builds⟩ := rootFromHashedLeafs_builds
        (hashSortedPair keccak) holds.ne_nil
      exact ⟨_, root, ⟨order, hashes, holds, _, builds⟩, rfl⟩
  have notDecided : (∃ error,
      verifyRootWithInterval keccak ri state = .error error) ↔
        ¬∃ isRoot, verifyRootWithInterval keccak ri state = .ok isRoot := by
    cases verifyRootWithInterval keccak ri state with
    | error error => simp
    | ok isRoot => simp
  rw [notDecided, decided]
  apply not_congr
  apply and_congr_right
  intro order
  exact window.exists_holdsInterval_iff order

/-- On every state that accepted events lead to, every root is verified
exactly. -/
theorem verify_root_exact {laneType : LaneType}
    {messageMetadata : MessageMetadata}
    {events : List CcipSendRequestedEventUnion}
    (accepted : (new messageMetadata).applyAll keccak ⟨laneType⟩ events =
      .ok state)
    (fits : state.seqNrsAndMessageHashes.length < 2 ^ 64)
    (ri : RootWithInterval) : VerifiesExactly keccak state ri := by
  have window := (applyAll_holds accepted).2.windowFrom fits
  have computes : ∀ root,
      computeMerkleRoot keccak ri.interval state = .ok root ↔ _ :=
    fun _ => computeMerkleRoot_eq_ok_iff window
  constructor
  · rw [verifyRootWithIntervalOrPanic, computeMerkleRootOrPanic_eq window,
      verifyRootWithInterval]
    cases computeMerkleRoot keccak ri.interval state with
    | error error => rfl
    | ok root => rfl
  · rw [verifyRootWithInterval_eq_ok_iff]
    simp only [computes, decide_eq_true_eq]
    constructor
    · rintro ⟨root, isRoot, rfl⟩
      exact isRoot
    · intro isRoot
      exact ⟨_, isRoot, rfl⟩
  · rw [verifyRootWithInterval_eq_ok_iff]
    simp only [computes, decide_eq_false_iff_not]
    constructor
    · rintro ⟨root, ⟨order, hashes, holds, pairs, builds⟩, other⟩
      refine ⟨order, hashes, holds, ?_⟩
      rintro ⟨_, others⟩
      exact other (others.root_unique builds)
    · rintro ⟨order, hashes, holds, notRoot⟩
      obtain ⟨root, _, builds⟩ := rootFromHashedLeafs_builds
        (hashSortedPair keccak) holds.ne_nil
      refine ⟨root, ⟨order, hashes, holds, _, builds⟩, ?_⟩
      intro same
      apply notRoot
      rw [same]
      exact ⟨_, builds⟩
  · exact verifyRootWithInterval_eq_error_iff window

/-- The interval of all words, of which only the first message is held. -/
def allNumbers : RootWithInterval := ⟨zeroHash, ⟨0, Word64.maxValue⟩⟩

theorem verify_root_exact_allNumbers :
    VerifiesExactly lengthHash
      ⟨firstLaneMetadata, [(1, firstSend.message.messageId)]⟩ allNumbers := by
  have accepted : (new firstLaneMetadata).applyAll lengthHash ⟨.evm2EvmV1_0⟩
      [firstSend] =
        .ok ⟨firstLaneMetadata, [(1, firstSend.message.messageId)]⟩ := by
    decide +kernel
  exact verify_root_exact accepted (by decide) allNumbers

end SourceBlessState

end RiskManagement
