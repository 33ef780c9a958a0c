import Mathlib.Data.Finset.Basic
import RiskManagement.Library.Checked
import RiskManagement.Afn.AfnContract
import RiskManagement.Afn.CommitStoreCommon
import RiskManagement.Afn.ContractEventStateMachine

/-!
# The replayed state of a lane's destination

Which roots were committed, which of them are blessed, and which this node has
voted for.
-/

namespace RiskManagement

/-- The events of the AFN contract and of the commit store of a lane. -/
inductive DestEventUnion where
  | blessed (ev : TaggedRootBlessedEvent)
  | blessVotesReset (ev : TaggedRootBlessVotesResetEvent)
  | alreadyBlessed (ev : AlreadyBlessedEvent)
  | voted (ev : VotedToBlessEvent)
  | alreadyVoted (ev : AlreadyVotedToBlessEvent)
  | committedV1_0 (ev : ReportAcceptedEventV1_0)
  | committedV1_2 (ev : ReportAcceptedEventV1_2)
deriving DecidableEq

/-- The filter of a lane's destination. -/
structure VersionedDestEventFilter where
  laneType : LaneType
deriving DecidableEq

/-- The roots of one commit store as this node sees them. -/
structure DestBlessState where
  myVoteAddress : Address
  commitStoreAddress : Address
  configVersion : UInt32
  myVotedButNotYetBlessedRoots : Finset Bytes32
  blessedRoots : Finset Bytes32
  committedRootsWithIntervals : List RootWithInterval
deriving DecidableEq

namespace DestBlessState

/-- The state that a lane's worker starts from. -/
def new (myVoteAddress commitStoreAddress : Address)
    (configVersion : UInt32) : DestBlessState where
  myVoteAddress := myVoteAddress
  commitStoreAddress := commitStoreAddress
  configVersion := configVersion
  myVotedButNotYetBlessedRoots := ∅
  blessedRoots := ∅
  committedRootsWithIntervals := []

/-- The branch of `Blessed` and `AlreadyBlessed`. -/
def recordBlessed (self : DestBlessState) (taggedRoot : TaggedRoot) :
    DestBlessState :=
  if taggedRoot.commitStore = self.commitStoreAddress then
    { self with
      blessedRoots := insert taggedRoot.root self.blessedRoots
      myVotedButNotYetBlessedRoots :=
        self.myVotedButNotYetBlessedRoots.erase taggedRoot.root }
  else
    self

/-- The branch of `Voted` and `AlreadyVoted`. -/
def recordVoted (self : DestBlessState) (configVersion : UInt32)
    (voter : Address) (taggedRoot : TaggedRoot) : DestBlessState :=
  if configVersion = self.configVersion ∧ voter = self.myVoteAddress ∧
      taggedRoot.commitStore = self.commitStoreAddress then
    if taggedRoot.root ∉ self.blessedRoots then
      { self with
        myVotedButNotYetBlessedRoots :=
          insert taggedRoot.root self.myVotedButNotYetBlessedRoots }
    else
      self
  else
    self

/-- The branch of `BlessVotesReset`. -/
def recordBlessVotesReset (self : DestBlessState) (configVersion : UInt32)
    (taggedRoot : TaggedRoot) : DestBlessState :=
  if configVersion = self.configVersion ∧
      taggedRoot.commitStore = self.commitStoreAddress then
    { self with
      blessedRoots := self.blessedRoots.erase taggedRoot.root
      myVotedButNotYetBlessedRoots :=
        self.myVotedButNotYetBlessedRoots.erase taggedRoot.root }
  else
    self

/-- Committed roots are remembered in the order of their events. -/
def recordCommitted (self : DestBlessState) (ri : RootWithInterval) :
    DestBlessState :=
  { self with
    committedRootsWithIntervals :=
      self.committedRootsWithIntervals ++ [ri] }

/-- `update_with_event`, which fails before it changes anything. -/
def updateWithEvent (self : DestBlessState)
    (filter : VersionedDestEventFilter) (ev : DestEventUnion) :
    Except StateError DestBlessState :=
  match filter.laneType, ev with
  | _, .blessed ev => .ok (self.recordBlessed ev.taggedRoot)
  | _, .alreadyBlessed ev => .ok (self.recordBlessed ev.taggedRoot)
  | _, .voted ev =>
      .ok (self.recordVoted ev.configVersion ev.voter ev.taggedRoot)
  | _, .alreadyVoted ev =>
      .ok (self.recordVoted ev.configVersion ev.voter ev.taggedRoot)
  | _, .blessVotesReset ev =>
      .ok (self.recordBlessVotesReset ev.configVersion ev.taggedRoot)
  | .evm2EvmV1_0, .committedV1_0 ev =>
      .ok (self.recordCommitted ev.report.toRootWithInterval)
  | .evm2EvmV1_2, .committedV1_2 ev =>
      .ok (self.recordCommitted ev.report.toRootWithInterval)
  | .evm2EvmV1_2, .committedV1_0 _ =>
      .error (.laneTypeMismatch .evm2EvmV1_2)
  | .evm2EvmV1_0, .committedV1_2 _ =>
      .error (.laneTypeMismatch .evm2EvmV1_0)

/-- The committed roots that this node may vote for, with their positions. -/
def unverifiedRootsWithIntervalsWeCouldVote (self : DestBlessState) :
    List (RootWithInterval × Nat) :=
  self.committedRootsWithIntervals.zipIdx.filter fun (ri, _) =>
    ¬(ri.root ∈ self.blessedRoots ∨
      ri.root ∈ self.myVotedButNotYetBlessedRoots)

/-- Events that are all accepted. -/
def applyAll (self : DestBlessState) (filter : VersionedDestEventFilter)
    (events : List DestEventUnion) : Except StateError DestBlessState :=
  events.foldlM (fun self ev => self.updateWithEvent filter ev) self

end DestBlessState

instance : State DestBlessState VersionedDestEventFilter DestEventUnion where
  updateWithEvent self _blockNumber _blockHash _address filter ev :=
    match self.updateWithEvent filter ev with
    | .error error => (self, .error error)
    | .ok next => (next, .ok ())

/-! ### What events leave -/

/-- The root and interval of a commit. -/
def DestEventUnion.committed : DestEventUnion → Option RootWithInterval
  | .committedV1_0 ev => some ev.report.toRootWithInterval
  | .committedV1_2 ev => some ev.report.toRootWithInterval
  | _ => none

namespace DestBlessState

theorem recordBlessed_frame (self : DestBlessState)
    (taggedRoot : TaggedRoot) :
    (self.recordBlessed taggedRoot).commitStoreAddress =
        self.commitStoreAddress ∧
      (self.recordBlessed taggedRoot).committedRootsWithIntervals =
        self.committedRootsWithIntervals := by
  rw [recordBlessed]
  split <;> exact ⟨rfl, rfl⟩

theorem recordVoted_frame (self : DestBlessState) (configVersion : UInt32)
    (voter : Address) (taggedRoot : TaggedRoot) :
    (self.recordVoted configVersion voter taggedRoot).commitStoreAddress =
        self.commitStoreAddress ∧
      (self.recordVoted configVersion voter
          taggedRoot).committedRootsWithIntervals =
        self.committedRootsWithIntervals := by
  rw [recordVoted]
  split
  · split <;> exact ⟨rfl, rfl⟩
  · exact ⟨rfl, rfl⟩

theorem recordBlessVotesReset_frame (self : DestBlessState)
    (configVersion : UInt32) (taggedRoot : TaggedRoot) :
    (self.recordBlessVotesReset configVersion
        taggedRoot).commitStoreAddress = self.commitStoreAddress ∧
      (self.recordBlessVotesReset configVersion
          taggedRoot).committedRootsWithIntervals =
        self.committedRootsWithIntervals := by
  rw [recordBlessVotesReset]
  split <;> exact ⟨rfl, rfl⟩

/-- An event keeps the commit store and adds at most its own commit. -/
theorem updateWithEvent_committed {self next : DestBlessState}
    {filter : VersionedDestEventFilter} {ev : DestEventUnion}
    (applied : self.updateWithEvent filter ev = .ok next) :
    next.commitStoreAddress = self.commitStoreAddress ∧
      next.committedRootsWithIntervals =
        self.committedRootsWithIntervals ++ ev.committed.toList := by
  unfold updateWithEvent at applied
  obtain ⟨laneType⟩ := filter
  cases ev with
  | blessed ev =>
      cases applied
      simpa [DestEventUnion.committed] using self.recordBlessed_frame _
  | alreadyBlessed ev =>
      cases applied
      simpa [DestEventUnion.committed] using self.recordBlessed_frame _
  | voted ev =>
      cases applied
      simpa [DestEventUnion.committed] using self.recordVoted_frame _ _ _
  | alreadyVoted ev =>
      cases applied
      simpa [DestEventUnion.committed] using self.recordVoted_frame _ _ _
  | blessVotesReset ev =>
      cases applied
      simpa [DestEventUnion.committed] using
        self.recordBlessVotesReset_frame _ _
  | committedV1_0 ev =>
      cases laneType with
      | evm2EvmV1_0 =>
          cases applied
          exact ⟨rfl, rfl⟩
      | evm2EvmV1_2 => cases applied
  | committedV1_2 ev =>
      cases laneType with
      | evm2EvmV1_0 => cases applied
      | evm2EvmV1_2 =>
          cases applied
          exact ⟨rfl, rfl⟩

/-- The commits of the given events are all that was added. -/
structure CommitsFrom (state initial : DestBlessState)
    (events : List DestEventUnion) : Prop where
  sameStore : state.commitStoreAddress = initial.commitStoreAddress
  fromEvents : ∀ ri ∈ state.committedRootsWithIntervals,
    ri ∈ initial.committedRootsWithIntervals ∨
      ∃ ev ∈ events, ev.committed = some ri

theorem CommitsFrom.updateWithEvent {initial state next : DestBlessState}
    {filter : VersionedDestEventFilter} {events : List DestEventUnion}
    {ev : DestEventUnion} (member : ev ∈ events)
    (commits : state.CommitsFrom initial events)
    (applied : state.updateWithEvent filter ev = .ok next) :
    next.CommitsFrom initial events := by
  obtain ⟨sameStore, committed⟩ := updateWithEvent_committed applied
  constructor
  · exact sameStore.trans commits.sameStore
  · intro ri inNext
    rw [committed] at inNext
    rcases List.mem_append.mp inNext with old | new
    · exact commits.fromEvents ri old
    · exact .inr ⟨ev, member, Option.mem_toList.mp new⟩

theorem applyAll_commitsFrom {initial final : DestBlessState}
    {filter : VersionedDestEventFilter} {events : List DestEventUnion}
    (applied : initial.applyAll filter events = .ok final) :
    final.CommitsFrom initial events := by
  have start : initial.CommitsFrom initial events :=
    ⟨rfl, fun _ member => .inl member⟩
  have preserves : ∀ state next : DestBlessState, ∀ ev ∈ events,
      state.CommitsFrom initial events →
      state.updateWithEvent filter ev = .ok next →
        next.CommitsFrom initial events := by
    intro state next ev member commits step
    exact commits.updateWithEvent member step
  rw [applyAll] at applied
  exact Checked.foldlM_preserves preserves start applied

theorem mem_unverifiedRootsWithIntervalsWeCouldVote
    {self : DestBlessState} {ri : RootWithInterval} {index : Nat}
    (member :
      (ri, index) ∈ self.unverifiedRootsWithIntervalsWeCouldVote) :
    ri ∈ self.committedRootsWithIntervals ∧ ri.root ∉ self.blessedRoots ∧
      ri.root ∉ self.myVotedButNotYetBlessedRoots := by
  obtain ⟨inCommitted, free⟩ := List.mem_filter.mp member
  refine ⟨List.fst_mem_of_mem_zipIdx inCommitted, ?_⟩
  simpa using free

end DestBlessState

end RiskManagement
