import RiskManagement.Afn.DestBlessState

/-!
# The status of each root

For one root a replay is a machine with three states.  The sets of the
destination state hold this machine's state for every root at once.
-/

namespace RiskManagement

/-- Whether a root is still to be voted for, voted for by this node, or
blessed. -/
inductive RootStatus where
  | votable
  | voted
  | blessed
deriving DecidableEq

/-- What an event says about a root. -/
inductive RootNews where
  | blessed
  | voted
  | reset
deriving DecidableEq

namespace RootStatus

/-- A vote does not take a blessing back, only a reset does. -/
def after : RootStatus → RootNews → RootStatus
  | _, .blessed => .blessed
  | .blessed, .voted => .blessed
  | _, .voted => .voted
  | _, .reset => .votable

def afterAll (status : RootStatus) (news : List RootNews) : RootStatus :=
  news.foldl after status

theorem after_ne_votable {status : RootStatus} {news : RootNews}
    (notReset : news ≠ .reset)
    (known : status ≠ .votable ∨ news = .voted) :
    status.after news ≠ .votable := by
  cases status <;> cases news <;> simp_all [after]

/-- Without a reset a root does not become votable again. -/
theorem afterAll_ne_votable {status : RootStatus} {news : List RootNews}
    (known : status ≠ .votable) (noReset : RootNews.reset ∉ news) :
    status.afterAll news ≠ .votable := by
  induction news generalizing status with
  | nil => exact known
  | cons first rest induction =>
      rw [List.mem_cons, not_or] at noReset
      apply induction _ noReset.2
      exact after_ne_votable (Ne.symm noReset.1) (.inl known)

theorem after_eq_blessed_iff {status : RootStatus} {news : RootNews} :
    status.after news = .blessed ↔
      news = .blessed ∨ news = .voted ∧ status = .blessed := by
  cases status <;> cases news <;> simp [after]

end RootStatus

/-! ### News of events -/

namespace DestEventUnion

/-- The events that bless the tagged root. -/
def blesses (taggedRoot : TaggedRoot) : DestEventUnion → Bool
  | .blessed ev => ev.taggedRoot = taggedRoot
  | .alreadyBlessed ev => ev.taggedRoot = taggedRoot
  | _ => false

/-- The votes of a voter for the tagged root under a config version. -/
def isVoteOf (voter : Address) (configVersion : UInt32)
    (taggedRoot : TaggedRoot) : DestEventUnion → Bool
  | .voted ev => ev.configVersion = configVersion ∧ ev.voter = voter ∧
      ev.taggedRoot = taggedRoot
  | .alreadyVoted ev => ev.configVersion = configVersion ∧
      ev.voter = voter ∧ ev.taggedRoot = taggedRoot
  | _ => false

/-- The resets of the tagged root under a config version that counts. -/
def resets (versionCounts : UInt32 → Bool) (taggedRoot : TaggedRoot) :
    DestEventUnion → Bool
  | .blessVotesReset ev =>
      versionCounts ev.configVersion ∧ ev.taggedRoot = taggedRoot
  | _ => false

/-- What an event says to a node about a root of its commit store. -/
def news (voter : Address) (configVersion : UInt32)
    (taggedRoot : TaggedRoot) (ev : DestEventUnion) : Option RootNews :=
  if ev.blesses taggedRoot then
    some .blessed
  else if ev.isVoteOf voter configVersion taggedRoot then
    some .voted
  else if ev.resets (· = configVersion) taggedRoot then
    some .reset
  else
    none

/-- The commits of the other lane type are rejected. -/
def ofLaneType : LaneType → DestEventUnion → Bool
  | .evm2EvmV1_0, .committedV1_2 _ => false
  | .evm2EvmV1_2, .committedV1_0 _ => false
  | _, _ => true

end DestEventUnion

/-! ### Replays -/

namespace DestBlessState

/-- A rejected event changes nothing. -/
def afterEvent (filter : VersionedDestEventFilter) (self : DestBlessState)
    (ev : DestEventUnion) : DestBlessState :=
  match self.updateWithEvent filter ev with
  | .ok next => next
  | .error _ => self

/-- The state that the events lead to. -/
def replay (self : DestBlessState) (filter : VersionedDestEventFilter)
    (events : List DestEventUnion) : DestBlessState :=
  events.foldl (afterEvent filter) self

/-- What the state says of one root. -/
def statusOf (self : DestBlessState) (root : Bytes32) : RootStatus :=
  if root ∈ self.blessedRoots then
    .blessed
  else if root ∈ self.myVotedButNotYetBlessedRoots then
    .voted
  else
    .votable

/-- A state of the node with the given identity, in which each root has one
status. -/
structure OfNode (myVoteAddress commitStoreAddress : Address)
    (configVersion : UInt32) (state : DestBlessState) : Prop where
  voter : state.myVoteAddress = myVoteAddress
  store : state.commitStoreAddress = commitStoreAddress
  version : state.configVersion = configVersion
  disjoint : Disjoint state.blessedRoots state.myVotedButNotYetBlessedRoots

/-- What each event does; a commit of the other lane type does nothing. -/
theorem afterEvent_eq (filter : VersionedDestEventFilter)
    (self : DestBlessState) (ev : DestEventUnion) :
    afterEvent filter self ev =
      match ev with
      | .blessed ev => self.recordBlessed ev.taggedRoot
      | .alreadyBlessed ev => self.recordBlessed ev.taggedRoot
      | .voted ev => self.recordVoted ev.configVersion ev.voter ev.taggedRoot
      | .alreadyVoted ev =>
          self.recordVoted ev.configVersion ev.voter ev.taggedRoot
      | .blessVotesReset ev =>
          self.recordBlessVotesReset ev.configVersion ev.taggedRoot
      | commit =>
          if commit.ofLaneType filter.laneType then
            (commit.committed.map self.recordCommitted).getD self
          else
            self := by
  obtain ⟨laneType⟩ := filter
  cases laneType <;> cases ev <;> rfl

/-! ### What one event does to the status of a root -/

theorem recordBlessed_statusOf (self : DestBlessState)
    (taggedRoot : TaggedRoot) (root : Bytes32) :
    (self.recordBlessed taggedRoot).statusOf root =
      if taggedRoot = ⟨self.commitStoreAddress, root⟩ then
        .blessed
      else
        self.statusOf root := by
  obtain ⟨commitStore, blessedRoot⟩ := taggedRoot
  rw [recordBlessed]
  simp only [TaggedRoot.mk.injEq]
  by_cases sameStore : commitStore = self.commitStoreAddress
  · by_cases sameRoot : blessedRoot = root
    · simp [sameStore, sameRoot, statusOf]
    · simp [sameStore, sameRoot, statusOf, Ne.symm sameRoot]
  · simp [sameStore]

theorem recordVoted_statusOf (self : DestBlessState)
    (configVersion : UInt32) (voter : Address) (taggedRoot : TaggedRoot)
    (root : Bytes32) :
    (self.recordVoted configVersion voter taggedRoot).statusOf root =
      if configVersion = self.configVersion ∧ voter = self.myVoteAddress ∧
          taggedRoot = ⟨self.commitStoreAddress, root⟩ then
        (self.statusOf root).after .voted
      else
        self.statusOf root := by
  obtain ⟨commitStore, votedRoot⟩ := taggedRoot
  rw [recordVoted]
  simp only [TaggedRoot.mk.injEq]
  by_cases mine : configVersion = self.configVersion ∧
      voter = self.myVoteAddress ∧ commitStore = self.commitStoreAddress
  · obtain ⟨sameVersion, sameVoter, sameStore⟩ := mine
    simp only [sameVersion, sameVoter, sameStore, true_and, if_true]
    by_cases sameRoot : votedRoot = root
    · subst sameRoot
      by_cases blessed : votedRoot ∈ self.blessedRoots
      · simp [blessed, statusOf, RootStatus.after]
      · by_cases voted : votedRoot ∈ self.myVotedButNotYetBlessedRoots
        · simp [blessed, voted, statusOf, RootStatus.after]
        · simp [blessed, voted, statusOf, RootStatus.after]
    · by_cases blessed : votedRoot ∈ self.blessedRoots
      · simp [blessed, sameRoot]
      · simp [blessed, sameRoot, statusOf, Ne.symm sameRoot]
  · rw [if_neg mine, if_neg]
    rintro ⟨sameVersion, sameVoter, sameStore, _⟩
    exact mine ⟨sameVersion, sameVoter, sameStore⟩

theorem recordBlessVotesReset_statusOf (self : DestBlessState)
    (configVersion : UInt32) (taggedRoot : TaggedRoot) (root : Bytes32) :
    (self.recordBlessVotesReset configVersion taggedRoot).statusOf root =
      if configVersion = self.configVersion ∧
          taggedRoot = ⟨self.commitStoreAddress, root⟩ then
        .votable
      else
        self.statusOf root := by
  obtain ⟨commitStore, resetRoot⟩ := taggedRoot
  rw [recordBlessVotesReset]
  simp only [TaggedRoot.mk.injEq]
  by_cases mine : configVersion = self.configVersion ∧
      commitStore = self.commitStoreAddress
  · obtain ⟨sameVersion, sameStore⟩ := mine
    by_cases sameRoot : resetRoot = root
    · simp [sameVersion, sameStore, sameRoot, statusOf]
    · simp [sameVersion, sameStore, sameRoot, statusOf, Ne.symm sameRoot]
  · rw [if_neg mine, if_neg]
    rintro ⟨sameVersion, sameStore, _⟩
    exact mine ⟨sameVersion, sameStore⟩

variable {me commitStore : Address} {version : UInt32}
  {self : DestBlessState}

/-- A root's status after an event is what the event's news make of it. -/
theorem OfNode.statusOf_afterEvent (ofNode : OfNode me commitStore version self)
    (filter : VersionedDestEventFilter) (ev : DestEventUnion)
    (root : Bytes32) :
    (afterEvent filter self ev).statusOf root =
      (self.statusOf root).afterAll
        (ev.news me version ⟨commitStore, root⟩).toList := by
  obtain ⟨rfl, rfl, rfl, _⟩ := ofNode
  rw [afterEvent_eq, DestEventUnion.news]
  cases ev with
  | blessed ev =>
      simp only [recordBlessed_statusOf, DestEventUnion.blesses,
        DestEventUnion.isVoteOf, DestEventUnion.resets, decide_eq_true_eq]
      split
      · rfl
      · rfl
  | alreadyBlessed ev =>
      simp only [recordBlessed_statusOf, DestEventUnion.blesses,
        DestEventUnion.isVoteOf, DestEventUnion.resets, decide_eq_true_eq]
      split
      · rfl
      · rfl
  | voted ev =>
      simp only [recordVoted_statusOf, DestEventUnion.blesses,
        DestEventUnion.isVoteOf, DestEventUnion.resets, decide_eq_true_eq]
      split
      · rfl
      · rfl
  | alreadyVoted ev =>
      simp only [recordVoted_statusOf, DestEventUnion.blesses,
        DestEventUnion.isVoteOf, DestEventUnion.resets, decide_eq_true_eq]
      split
      · rfl
      · rfl
  | blessVotesReset ev =>
      simp only [recordBlessVotesReset_statusOf, DestEventUnion.blesses,
        DestEventUnion.isVoteOf, DestEventUnion.resets, decide_eq_true_eq]
      split
      · cases self.statusOf root <;> rfl
      · rfl
  | committedV1_0 ev =>
      simp only [DestEventUnion.blesses, DestEventUnion.isVoteOf,
        DestEventUnion.resets]
      split <;> rfl
  | committedV1_2 ev =>
      simp only [DestEventUnion.blesses, DestEventUnion.isVoteOf,
        DestEventUnion.resets]
      split <;> rfl

theorem OfNode.recordBlessed (ofNode : OfNode me commitStore version self)
    (taggedRoot : TaggedRoot) :
    OfNode me commitStore version (self.recordBlessed taggedRoot) := by
  rw [DestBlessState.recordBlessed]
  split
  · refine ⟨ofNode.voter, ofNode.store, ofNode.version, ?_⟩
    rw [Finset.disjoint_left]
    intro root blessed voted
    obtain ⟨otherRoot, voted⟩ := Finset.mem_erase.mp voted
    rcases Finset.mem_insert.mp blessed with same | blessed
    · exact otherRoot same
    · exact Finset.disjoint_left.mp ofNode.disjoint blessed voted
  · exact ofNode

theorem OfNode.recordVoted (ofNode : OfNode me commitStore version self)
    (configVersion : UInt32) (voter : Address) (taggedRoot : TaggedRoot) :
    OfNode me commitStore version
      (self.recordVoted configVersion voter taggedRoot) := by
  rw [DestBlessState.recordVoted]
  split
  · split
    · rename_i notBlessed
      refine ⟨ofNode.voter, ofNode.store, ofNode.version, ?_⟩
      rw [Finset.disjoint_left]
      intro root blessed voted
      rcases Finset.mem_insert.mp voted with same | voted
      · rw [same] at blessed
        exact notBlessed blessed
      · exact Finset.disjoint_left.mp ofNode.disjoint blessed voted
    · exact ofNode
  · exact ofNode

theorem OfNode.recordBlessVotesReset
    (ofNode : OfNode me commitStore version self) (configVersion : UInt32)
    (taggedRoot : TaggedRoot) :
    OfNode me commitStore version
      (self.recordBlessVotesReset configVersion taggedRoot) := by
  rw [DestBlessState.recordBlessVotesReset]
  split
  · refine ⟨ofNode.voter, ofNode.store, ofNode.version, ?_⟩
    exact ofNode.disjoint.mono (Finset.erase_subset _ _)
      (Finset.erase_subset _ _)
  · exact ofNode

theorem OfNode.recordCommit (ofNode : OfNode me commitStore version self)
    (commit : Option RootWithInterval) :
    OfNode me commitStore version
      ((commit.map self.recordCommitted).getD self) := by
  cases commit with
  | none => exact ofNode
  | some ri =>
      exact ⟨ofNode.voter, ofNode.store, ofNode.version, ofNode.disjoint⟩

theorem OfNode.afterEvent (ofNode : OfNode me commitStore version self)
    (filter : VersionedDestEventFilter) (ev : DestEventUnion) :
    OfNode me commitStore version (afterEvent filter self ev) := by
  rw [afterEvent_eq]
  cases ev with
  | blessed ev => exact ofNode.recordBlessed _
  | alreadyBlessed ev => exact ofNode.recordBlessed _
  | voted ev => exact ofNode.recordVoted _ _ _
  | alreadyVoted ev => exact ofNode.recordVoted _ _ _
  | blessVotesReset ev => exact ofNode.recordBlessVotesReset _ _
  | committedV1_0 ev =>
      dsimp only
      split
      · exact ofNode.recordCommit _
      · exact ofNode
  | committedV1_2 ev =>
      dsimp only
      split
      · exact ofNode.recordCommit _
      · exact ofNode

theorem new_ofNode (me commitStore : Address) (version : UInt32) :
    OfNode me commitStore version (new me commitStore version) :=
  ⟨rfl, rfl, rfl, Finset.disjoint_empty_left _⟩

/-! ### What a replay does to the status of a root -/

theorem OfNode.replay (ofNode : OfNode me commitStore version self)
    (filter : VersionedDestEventFilter) (events : List DestEventUnion) :
    OfNode me commitStore version (self.replay filter events) := by
  induction events generalizing self with
  | nil => exact ofNode
  | cons ev events induction => exact induction (ofNode.afterEvent filter ev)

theorem OfNode.statusOf_replay (ofNode : OfNode me commitStore version self)
    (filter : VersionedDestEventFilter) (events : List DestEventUnion)
    (root : Bytes32) :
    (self.replay filter events).statusOf root =
      (self.statusOf root).afterAll
        (events.filterMap
          (DestEventUnion.news me version ⟨commitStore, root⟩)) := by
  induction events generalizing self with
  | nil => rfl
  | cons ev events induction =>
      have first := ofNode.statusOf_afterEvent filter ev root
      have rest := induction (ofNode.afterEvent filter ev)
      rw [first] at rest
      rw [DestBlessState.replay, List.foldl_cons]
      refine rest.trans ?_
      cases isNews : ev.news me version ⟨commitStore, root⟩ with
      | none => rw [List.filterMap_cons_none isNews]; rfl
      | some news => rw [List.filterMap_cons_some isNews]; rfl

end DestBlessState

end RiskManagement
