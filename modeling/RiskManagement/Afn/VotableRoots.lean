import RiskManagement.Afn.EventFilters
import RiskManagement.Afn.RootStatus

/-!
# Which roots are offered to vote for

The offered roots are the committed ones whose status is votable.  A vote
lasts until a reset under the same config version, a blessing until such a
reset as well.
-/

namespace RiskManagement

namespace DestBlessState

variable {me commitStore : Address} {version : UInt32}

/-! ### Accepted events -/

theorem updateWithEvent_eq_ok {self next : DestBlessState}
    {filter : VersionedDestEventFilter} {ev : DestEventUnion}
    (applied : self.updateWithEvent filter ev = .ok next) :
    afterEvent filter self ev = next := by
  rw [afterEvent, applied]

/-- Events that are all accepted are replayed, and all their commits are
added. -/
theorem applyAll_eq_ok {self final : DestBlessState}
    {filter : VersionedDestEventFilter} {events : List DestEventUnion}
    (applied : self.applyAll filter events = .ok final) :
    self.replay filter events = final ∧
      final.committedRootsWithIntervals =
        self.committedRootsWithIntervals ++
          events.filterMap DestEventUnion.committed := by
  induction events generalizing self with
  | nil =>
      cases applied
      exact ⟨rfl, (List.append_nil _).symm⟩
  | cons ev events induction =>
      rw [applyAll, List.foldlM_cons] at applied
      obtain ⟨next, first, rest⟩ := Checked.bind_eq_ok_iff.mp applied
      obtain ⟨replayed, committed⟩ := induction rest
      obtain ⟨_, commits⟩ := updateWithEvent_committed first
      refine ⟨?_, ?_⟩
      · rw [replay, List.foldl_cons, updateWithEvent_eq_ok first]
        exact replayed
      · rw [committed, commits, List.append_assoc]
        cases isCommit : ev.committed with
        | none => rw [List.filterMap_cons_none isCommit]; rfl
        | some ri => rw [List.filterMap_cons_some isCommit]; rfl

/-! ### Votes last -/

theorem statusOf_of_offered {self : DestBlessState} {ri : RootWithInterval}
    {index : Nat}
    (offered : (ri, index) ∈ self.unverifiedRootsWithIntervalsWeCouldVote) :
    self.statusOf ri.root = .votable := by
  obtain ⟨_, notBlessed, notVoted⟩ :=
    mem_unverifiedRootsWithIntervalsWeCouldVote offered
  rw [statusOf, if_neg notBlessed, if_neg notVoted]

/-- A vote of this node is news, unless the event blesses the root. -/
theorem news_of_vote {ev : DestEventUnion} {taggedRoot : TaggedRoot}
    (vote : ev.isVoteOf me version taggedRoot = true) :
    ev.news me version taggedRoot = some .voted := by
  have noBlessing : ev.blesses taggedRoot = false := by
    cases ev <;> simp_all [DestEventUnion.isVoteOf, DestEventUnion.blesses]
  rw [DestEventUnion.news, noBlessing, vote]
  rfl

theorem resets_of_news {ev : DestEventUnion} {taggedRoot : TaggedRoot}
    (news : ev.news me version taggedRoot = some .reset) :
    ev.resets (· = version) taggedRoot = true := by
  rw [DestEventUnion.news] at news
  split at news
  · cases news
  · split at news
    · cases news
    · split at news
      · assumption
      · cases news

theorem statusOf_after_vote {self : DestBlessState}
    (ofNode : OfNode me commitStore version self)
    (filter : VersionedDestEventFilter) {vote : DestEventUnion}
    {later : List DestEventUnion} {root : Bytes32}
    (isVote : vote.isVoteOf me version ⟨commitStore, root⟩ = true)
    (noReset : ∀ ev ∈ later,
      ev.resets (· = version) ⟨commitStore, root⟩ = false) :
    (self.replay filter (vote :: later)).statusOf root ≠ .votable := by
  rw [ofNode.statusOf_replay,
    List.filterMap_cons_some (news_of_vote isVote), RootStatus.afterAll,
    List.foldl_cons]
  apply RootStatus.afterAll_ne_votable
  · exact RootStatus.after_ne_votable (by decide) (.inr rfl)
  · intro reset
    obtain ⟨ev, member, isReset⟩ := List.mem_filterMap.mp reset
    have resets := resets_of_news isReset
    rw [noReset ev member] at resets
    cases resets

theorem applyAll_ofLane (self : DestBlessState)
    {filter : VersionedDestEventFilter} {events : List DestEventUnion}
    (ofLane : ∀ ev ∈ events, LaneEvent.OfLane filter.laneType ev) :
    ∃ final, self.applyAll filter events = .ok final := by
  induction events generalizing self with
  | nil => exact ⟨self, rfl⟩
  | cons ev events ih =>
      obtain ⟨isLane, restOfLane⟩ := List.forall_mem_cons.mp ofLane
      obtain ⟨next, accepted⟩ := self.updateWithEvent_ofLane isLane
      obtain ⟨final, applied⟩ := ih next restOfLane
      refine ⟨final, ?_⟩
      rw [applyAll, List.foldlM_cons, accepted]
      exact applied

/-- The roots this node may vote for, after any events of the lane's type. -/
theorem votable_roots_exact {filter : VersionedDestEventFilter}
    {events : List DestEventUnion}
    (ofLane : ∀ ev ∈ events, LaneEvent.OfLane filter.laneType ev) :
    ∃ final, (new me commitStore version).applyAll filter events =
        .ok final ∧
      Disjoint final.blessedRoots final.myVotedButNotYetBlessedRoots ∧
      final.unverifiedRootsWithIntervalsWeCouldVote =
        (events.filterMap DestEventUnion.committed).zipIdx.filter
          (fun (ri, _) => ri.root ∉ final.blessedRoots ∧
            ri.root ∉ final.myVotedButNotYetBlessedRoots) ∧
      ∀ (before : List DestEventUnion) (vote : DestEventUnion)
        (later : List DestEventUnion) (root : Bytes32),
        events = before ++ vote :: later →
          vote.isVoteOf me version ⟨commitStore, root⟩ = true →
          (∀ ev ∈ later,
            ev.resets (· = version) ⟨commitStore, root⟩ = false) →
          ∀ ri index,
            (ri, index) ∈ final.unverifiedRootsWithIntervalsWeCouldVote →
              ri.root ≠ root := by
  obtain ⟨final, applied⟩ :=
    applyAll_ofLane (new me commitStore version) ofLane
  obtain ⟨replayed, committed⟩ := applyAll_eq_ok applied
  have start := new_ofNode me commitStore version
  refine ⟨final, applied, ?_, ?_, ?_⟩
  · rw [← replayed]
    exact (start.replay filter events).disjoint
  · rw [unverifiedRootsWithIntervalsWeCouldVote, committed]
    simp only [not_or]
    rfl
  · intro before vote later root split isVote noReset ri index offered same
    have votable := statusOf_of_offered offered
    rw [same, ← replayed, split, replay, List.foldl_append] at votable
    exact statusOf_after_vote (start.replay filter before) filter isVote
      noReset votable

/-- The commit of a root for one message. -/
def commitOfOne (root : Bytes32) : DestEventUnion :=
  .committedV1_2 ⟨⟨⟨.empty, .empty⟩, ⟨1, 1⟩, root⟩⟩

/-- Two commits of one root, and this node's vote between them. -/
def votedBetweenCommits (me commitStore : Address) (root : Bytes32) :
    List DestEventUnion :=
  [commitOfOne root, .voted ⟨1, me, ⟨commitStore, root⟩, 1⟩,
    commitOfOne root]

theorem votable_roots_exact_votedBetweenCommits :
    let me : Address := SizedBytes.replicate 20 0
    let root : Bytes32 := SizedBytes.replicate 32 0
    let events := votedBetweenCommits me me root
    ∃ final, (new me me 1).applyAll ⟨.evm2EvmV1_2⟩ events = .ok final ∧
      final.committedRootsWithIntervals.map RootWithInterval.root =
        [root, root] ∧
      ∀ ri index,
        (ri, index) ∈ final.unverifiedRootsWithIntervalsWeCouldVote →
          ri.root ≠ root := by
  intro me root events
  have ofLane : ∀ ev ∈ events,
      LaneEvent.OfLane (VersionedDestEventFilter.mk .evm2EvmV1_2).laneType
        ev := by
    simp [events, votedBetweenCommits, commitOfOne, LaneEvent.OfLane]
  obtain ⟨final, applied, _, _, noVoteAgain⟩ :=
    @votable_roots_exact me me 1 ⟨.evm2EvmV1_2⟩ events ofLane
  refine ⟨final, applied, ?_, ?_⟩
  · cases applied
    rfl
  · exact noVoteAgain [commitOfOne root] _ [commitOfOne root] root rfl
      (by decide) (by decide)

/-! ### Blessings last -/

theorem mem_blessedRoots_iff {self : DestBlessState} {root : Bytes32} :
    root ∈ self.blessedRoots ↔ self.statusOf root = .blessed := by
  rw [statusOf]
  split
  · rename_i blessed
    simp [blessed]
  · rename_i notBlessed
    split <;> simp [notBlessed]

end DestBlessState

namespace DestEventUnion

/-- The events that bless the tagged root, and its resets under a version that
counts. -/
def decides (versionCounts : UInt32 → Bool) (taggedRoot : TaggedRoot)
    (ev : DestEventUnion) : Bool :=
  ev.blesses taggedRoot || ev.resets versionCounts taggedRoot

/-- Among the events that decide there is one, and the last is no reset. -/
def LastBlesses (versionCounts : UInt32 → Bool) (taggedRoot : TaggedRoot)
    (events : List DestEventUnion) : Prop :=
  ∃ last, (events.filter (decides versionCounts taggedRoot)).getLast? =
      some last ∧ last.blesses taggedRoot = true

theorem lastBlesses_append_singleton {versionCounts : UInt32 → Bool}
    {taggedRoot : TaggedRoot} {events : List DestEventUnion}
    {ev : DestEventUnion} :
    LastBlesses versionCounts taggedRoot (events ++ [ev]) ↔
      ev.blesses taggedRoot = true ∨
        ev.decides versionCounts taggedRoot = false ∧
          LastBlesses versionCounts taggedRoot events := by
  rw [LastBlesses, LastBlesses, List.filter_append]
  cases decided : ev.decides versionCounts taggedRoot with
  | true => simp [decided]
  | false =>
      rw [decides, Bool.or_eq_false_iff] at decided
      simp [decides, decided]

end DestEventUnion

namespace DestBlessState

variable {me commitStore : Address} {version : UInt32}

/-- One event blesses a root, or does not decide about it. -/
theorem mem_blessedRoots_afterEvent {self : DestBlessState}
    (ofNode : OfNode me commitStore version self)
    (filter : VersionedDestEventFilter) (ev : DestEventUnion)
    (root : Bytes32) :
    root ∈ (afterEvent filter self ev).blessedRoots ↔
      ev.blesses ⟨commitStore, root⟩ = true ∨
        ev.decides (· = version) ⟨commitStore, root⟩ = false ∧
          root ∈ self.blessedRoots := by
  rw [mem_blessedRoots_iff, mem_blessedRoots_iff,
    ofNode.statusOf_afterEvent, DestEventUnion.decides,
    Bool.or_eq_false_iff, DestEventUnion.news]
  cases blesses : ev.blesses ⟨commitStore, root⟩ with
  | true => simp [RootStatus.afterAll, RootStatus.after_eq_blessed_iff]
  | false =>
      cases isVote : ev.isVoteOf me version ⟨commitStore, root⟩ with
      | true =>
          have noReset :
              ev.resets (· = version) ⟨commitStore, root⟩ = false := by
            cases ev <;>
              simp_all [DestEventUnion.isVoteOf, DestEventUnion.resets]
          simp [RootStatus.afterAll, RootStatus.after_eq_blessed_iff, noReset]
      | false =>
          cases resets : ev.resets (· = version) ⟨commitStore, root⟩ with
          | true =>
              simp [RootStatus.afterAll, RootStatus.after_eq_blessed_iff]
          | false => simp [RootStatus.afterAll]

/-- A root is blessed when the last event that decides about it blesses it;
resets decide under this config version only. -/
theorem blessed_iff_last_blesses (me commitStore : Address)
    (version : UInt32) (filter : VersionedDestEventFilter)
    (events : List DestEventUnion) (root : Bytes32) :
    root ∈ ((new me commitStore version).replay filter events).blessedRoots ↔
      DestEventUnion.LastBlesses (· = version) ⟨commitStore, root⟩
        events := by
  induction events using List.reverseRecOn with
  | nil => simp [replay, new, DestEventUnion.LastBlesses]
  | append_singleton events ev induction =>
      have ofNode := (new_ofNode me commitStore version).replay filter events
      rw [DestEventUnion.lastBlesses_append_singleton, ← induction,
        ← mem_blessedRoots_afterEvent ofNode filter]
      rw [replay, List.foldl_append]
      rfl

/-- A blessing and its reset, both of the config version before this one. -/
def resetOfOldVersion (commitStore : Address) (root : Bytes32) :
    List DestEventUnion :=
  [.blessed ⟨1, ⟨commitStore, root⟩, 1⟩,
    .blessVotesReset ⟨1, ⟨commitStore, root⟩, true⟩]

/-- Resets of other config versions leave a root blessed. -/
theorem stays_blessed_after_old_reset :
    ¬∀ (me commitStore : Address) (version : UInt32)
      (filter : VersionedDestEventFilter) (events : List DestEventUnion)
      (root : Bytes32),
        root ∈ ((new me commitStore version).replay filter
            events).blessedRoots ↔
          DestEventUnion.LastBlesses (fun _ => true) ⟨commitStore, root⟩
            events := by
  intro follows
  let store : Address := SizedBytes.replicate 20 0
  let root : Bytes32 := SizedBytes.replicate 32 0
  have blessed : root ∈ ((new store store 2).replay ⟨.evm2EvmV1_2⟩
      (resetOfOldVersion store root)).blessedRoots := by
    decide +kernel
  obtain ⟨last, isLast, blesses⟩ := (follows _ _ _ _ _ _).mp blessed
  -- The last event about the root is the reset.
  have isReset : (resetOfOldVersion store root).getLast? = some last := isLast
  cases isReset
  cases blesses

end DestBlessState

end RiskManagement
