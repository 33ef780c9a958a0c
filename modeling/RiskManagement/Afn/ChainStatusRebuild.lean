import RiskManagement.Afn.ChainStatusWalk

/-!
# What an update holds before its last `Tail::new`

The outcomes of one update by either updater, for a node that serves a tree:
equal hashes mean equal blocks and a parent's number is one below its child's.
Everything later says about updates is read off these outcomes.
-/

namespace RiskManagement

/-- The errors that come from outside the updater. -/
def UpdateError.FromEnvironment : UpdateError → Prop
  | .shutdown => True
  | .rpc _ => True
  | .wrongBlockCount _ _ => True
  | .tail _ => False
  | .unwrapNone => False
  | .outOfFuel => False

/-- The deque an update hands to its last `Tail::new`. -/
structure RebuiltDeque (served : Block → Prop) (tail : Tail) (start : Block)
    (newTail : List Block) : Prop where
  nonempty : newTail ≠ []
  joined : JoinedDeque tail newTail
  served : ∀ block ∈ newTail, served block
  last : [start] <:+ newTail

theorem RebuiltDeque.tailNew {served : Block → Prop} {tail : Tail}
    {start : Block} {newTail : List Block}
    (rebuilt : RebuiltDeque served tail start newTail) :
    Tail.new newTail = .ok ⟨newTail, rebuilt.nonempty, rebuilt.joined.linked⟩ :=
  Tail.new_of_linked rebuilt.nonempty rebuilt.joined.linked

/-- What an updater's own two loops must do with a joined deque. -/
def KeepsJoined (tail : Tail) (start : Block)
    (afterJoin : Tail → Block → List Block → Option (List Block)) : Prop :=
  ∀ front rest, Block.view.Linked (front :: rest) → front ∈ tail.blocks →
    [start] <:+ front :: rest →
      ∃ newTail, afterJoin tail front rest = some newTail ∧
        newTail ≠ [] ∧ JoinedDeque tail newTail ∧ [start] <:+ newTail ∧
        ∀ block ∈ newTail, block ∈ front :: rest ∨ block ∈ tail.blocks

theorem ConfirmationDepthChainStatusUpdater.afterJoin_keepsJoined
    (self : ConfirmationDepthChainStatusUpdater) (tail : Tail)
    (start : Block) : KeepsJoined tail start self.afterJoin := by
  intro front rest linked member isLast
  rw [afterJoin]
  refine ⟨_, rfl, ?_, ?_, ?_, ?_⟩
  · apply popFrontLongerThan_ne_nil (Nat.succ_pos _)
    apply extendFromTail_ne_nil
  · apply (extendFromTail_joined _ linked member).suffix
    apply popFrontLongerThan_suffix
  · apply last_suffix_of_suffix _ (popFrontLongerThan_suffix _ _)
    · apply popFrontLongerThan_ne_nil (Nat.succ_pos _)
      apply extendFromTail_ne_nil
    · exact isLast.trans (extendFromTail_suffix _ _ _ _)
  · intro block kept
    apply mem_extendFromTail
    exact (popFrontLongerThan_suffix _ _).subset kept

theorem FinalityTagChainStatusUpdater.afterJoin_keepsJoined
    {finalized start : Block} (order : finalized.number ≤ start.number)
    (tail : Tail) : KeepsJoined tail start (afterJoin finalized) := by
  intro front rest linked member isLast
  rw [afterJoin]
  have extendedLast := isLast.trans (extendFromTail_suffix
    (fun front _ => decide (finalized.number < front.number)) tail front rest)
  obtain ⟨newTail, popped⟩ := popFrontBelow_isSome extendedLast order
  have isSuffix := popFrontBelow_suffix popped
  have nonempty := popFrontBelow_ne_nil popped
  refine ⟨newTail, popped, nonempty, ?_, ?_, ?_⟩
  · exact (extendFromTail_joined _ linked member).suffix isSuffix
  · exact last_suffix_of_suffix extendedLast isSuffix nonempty
  · intro block kept
    exact mem_extendFromTail (isSuffix.subset kept)

/-- What an update can hold before its last `Tail::new`.  Fuel for every
block number is never used up. -/
inductive RebuildOutcome (served : Block → Prop) (fuel : Nat) (tail : Tail) :
    Except UpdateError Rebuilt → Prop where
  | violated :
      RebuildOutcome served fuel tail (.ok (.returned .finalityViolated))
  | unchanged :
      RebuildOutcome served fuel tail (.ok (.returned (.good tail)))
  | rebuilt {start : Block} {newTail : List Block} :
      RebuiltDeque served tail start newTail →
      RebuildOutcome served fuel tail (.ok (.deque newTail))
  | environment {error : UpdateError} : error.FromEnvironment →
      RebuildOutcome served fuel tail (.error error)
  | outOfFuel : fuel < 2 ^ 64 →
      RebuildOutcome served fuel tail (.error .outOfFuel)

theorem collect_eq_ok {ε α : Type} {results : List (Except ε α)}
    {values : List α} (collected : results.mapM id = .ok values) :
    results = values.map .ok := by
  induction results generalizing values with
  | nil =>
      cases collected
      rfl
  | cons result results induction =>
      rw [List.mapM_cons] at collected
      cases result with
      | error error => cases collected
      | ok value =>
          cases rest : results.mapM id with
          | error error =>
              rw [rest] at collected
              cases collected
          | ok restValues =>
              rw [rest] at collected
              cases collected
              rw [List.map_cons, induction rest]

section Rebuild

variable {served : Block → Prop}

/-- The walk stops at a block of the tail, not only at an equal height. -/
theorem Walks.joined_mem (tree : Block.view.IsTree served)
    {parentOf : Bytes32 → Except RpcError Block}
    {conflicts : Block → Bool} {tail : Tail} {start front : Block}
    {rest : List Block} (tailServed : ∀ block ∈ tail.blocks, served block)
    (walk : Walks parentOf conflicts tail start [] (.joined front rest))
    (deque : ServedDeque served (front :: rest)) : front ∈ tail.blocks := by
  have frontServed : served front :=
    deque.served front List.mem_cons_self
  exact (Tail.contains_iff_mem tree tailServed frontServed).mp
    walk.joined_contains

/-- A walk that joins the tail hands over a deque that `Tail::new` accepts. -/
theorem Walks.rebuiltDeque (tree : Block.view.IsTree served)
    {parentOf : Bytes32 → Except RpcError Block}
    (serves : ServesParents parentOf served) {conflicts : Block → Bool}
    {afterJoin : Tail → Block → List Block → Option (List Block)}
    {tail : Tail} {start front : Block} {rest : List Block}
    (startServed : served start)
    (tailServed : ∀ block ∈ tail.blocks, served block)
    (keepsJoined : KeepsJoined tail start afterJoin)
    (walk : Walks parentOf conflicts tail start [] (.joined front rest)) :
    ∃ newTail, afterJoin tail front rest = some newTail ∧
      RebuiltDeque served tail start newTail := by
  have deque : ServedDeque served (front :: rest) :=
    walk.servedDeque tree serves (.singleton startServed)
  have member := walk.joined_mem tree tailServed deque
  obtain ⟨newTail, kept, nonempty, joined, last, sources⟩ :=
    keepsJoined front rest deque.linked member walk.suffix_newTail
  refine ⟨newTail, kept, nonempty, joined, ?_, last⟩
  intro block blockMember
  rcases sources block blockMember with walked | old
  · exact deque.served block walked
  · exact tailServed block old

theorem rebuildFrom_outcome (tree : Block.view.IsTree served)
    {parentOf : Bytes32 → Except RpcError Block}
    (serves : ServesParents parentOf served) {conflicts : Block → Bool}
    {afterJoin : Tail → Block → List Block → Option (List Block)}
    {isDone : Nat → Bool} {fuel : Nat} {tail : Tail} {start : Block}
    (startServed : served start)
    (tailServed : ∀ block ∈ tail.blocks, served block)
    (keepsJoined : KeepsJoined tail start afterJoin) :
    RebuildOutcome served fuel tail
      (rebuildFrom parentOf conflicts afterJoin isDone fuel tail start) := by
  rw [rebuildFrom]
  cases result : walkBack parentOf conflicts isDone tail fuel start [] with
  | error error =>
      rcases walkBack_error result with ⟨rfl, _⟩ | ⟨cause, _, rfl, _⟩ | rfl
      · exact .environment trivial
      · exact .environment trivial
      · apply RebuildOutcome.outOfFuel
        by_contra notShort
        have bound := Word64.toNat_lt_size start.number
        exact walkBack_ne_outOfFuel tree serves startServed (by omega) result
  | ok outcome =>
      have walk := walkBack_walks result
      cases outcome with
      | finalityViolated newTail => exact .violated
      | rewound newTail => exact .unchanged
      | joined front rest =>
          obtain ⟨newTail, kept, deque⟩ := walk.rebuiltDeque tree serves
            startServed tailServed keepsJoined
          simp only [bind, Except.bind, kept]
          exact .rebuilt deque

theorem BlockRpc.Serves.servesParents {rpc : BlockRpc}
    (serves : rpc.Serves served) :
    ServesParents (fun hash => rpc.getBlock (.hash hash)) served := by
  intro hash block fetched
  exact ⟨serves.getBlock_served _ block fetched,
    serves.getBlock_hash hash block fetched⟩

theorem ConfirmationDepthChainStatusUpdater.getBlockWithConfirmations_served
    {rpc : BlockRpc} (serves : rpc.Serves served) {confirmations : Nat}
    {block : Block}
    (success : getBlockWithConfirmations rpc confirmations = .ok block) :
    served block := by
  rw [getBlockWithConfirmations] at success
  split at success
  · cases success
  · exact serves.getBlock_served _ _ success

namespace FinalityTagChainStatusUpdater

theorem cacheOrEmpty_served {rpc : BlockRpc} (serves : rpc.Serves served)
    (first last : UInt64) :
    ∀ block ∈ cacheOrEmpty rpc first last, served block := by
  intro block member
  rw [cacheOrEmpty, blockCache] at member
  split at member
  · rename_i cache built
    split at built
    · cases built
      simp at member
    · split at built
      · cases built
      · rename_i blks answered
        cases built
        obtain ⟨result, resultMember, isBlock⟩ := List.mem_filterMap.mp member
        cases result with
        | error error => cases isBlock
        | ok value =>
            cases isBlock
            exact serves.getBlocks_served _ blks block answered resultMember
  · simp at member

theorem parentFromCache_servesParents {rpc : BlockRpc}
    (serves : rpc.Serves served) {cache : List Block}
    (cacheServed : ∀ block ∈ cache, served block) :
    ServesParents (parentFromCache cache rpc) served := by
  intro hash block fetched
  rw [parentFromCache] at fetched
  split at fetched
  · rename_i cached hit
    cases fetched
    rw [cacheGet] at hit
    have member := List.mem_of_find?_eq_some hit
    have sameHash := List.find?_some hit
    exact ⟨cacheServed block (List.mem_reverse.mp member),
      by simpa using sameHash⟩
  · exact serves.servesParents hash block fetched

theorem getBlocksThatMustExist_spec {rpc : BlockRpc}
    (serves : rpc.Serves served) (first second : BlockIdentifier) :
    (∃ error, getBlocksThatMustExist rpc first second = .error error ∧
      error.FromEnvironment) ∨
      ∃ firstBlock secondBlock,
        getBlocksThatMustExist rpc first second =
          .ok (firstBlock, secondBlock) ∧
        served firstBlock ∧ served secondBlock := by
  rw [getBlocksThatMustExist]
  cases answered : rpc.getBlocks [first, second] with
  | error error => exact .inl ⟨_, rfl, trivial⟩
  | ok results =>
      cases collected : results.mapM id with
      | error error =>
          simp only [bind, Except.bind, liftRpc, collected]
          exact .inl ⟨_, rfl, trivial⟩
      | ok blocks =>
          have same := collect_eq_ok collected
          subst same
          have blocksServed : ∀ block ∈ blocks, served block := by
            intro block member
            exact serves.getBlocks_served _ _ block answered
              (List.mem_map_of_mem member)
          simp only [bind, Except.bind, liftRpc, collected]
          split
          · rename_i firstBlock secondBlock
            right
            exact ⟨firstBlock, secondBlock, rfl,
              blocksServed firstBlock (by simp),
              blocksServed secondBlock (by simp)⟩
          · exact .inl ⟨_, rfl, trivial⟩

/-- The two blocks of the update are served, and the finalized one is not
above the latest one. -/
theorem finalizedAndLatest_spec {rpc : BlockRpc} (serves : rpc.Serves served) :
    (∃ error, finalizedAndLatest rpc = .error error ∧ error.FromEnvironment) ∨
      ∃ finalized latest, finalizedAndLatest rpc = .ok (finalized, latest) ∧
        served finalized ∧ served latest ∧
        finalized.number ≤ latest.number := by
  rw [finalizedAndLatest]
  rcases getBlocksThatMustExist_spec serves .finalized .latest with
    ⟨error, failed, environment⟩ |
    ⟨finalized, latest, answered, finalizedServed, latestServed⟩
  · rw [failed]
    exact .inl ⟨error, rfl, environment⟩
  · rw [answered]
    right
    by_cases order : finalized.number ≤ latest.number
    · refine ⟨finalized, latest, ?_, finalizedServed, latestServed, order⟩
      simp [bind, Except.bind, order, pure, Except.pure]
    · refine ⟨finalized, finalized, ?_, finalizedServed, finalizedServed,
        UInt64.le_refl _⟩
      simp [bind, Except.bind, order, pure, Except.pure]

end FinalityTagChainStatusUpdater

/-- Either updater, asked about a served tail, keeps to the outcomes. -/
theorem ChainStatusUpdater.rebuild_outcome (tree : Block.view.IsTree served)
    (updater : ChainStatusUpdater) {rpc : BlockRpc}
    (serves : rpc.Serves served) (isDone : Nat → Bool) (fuel : Nat)
    {tail : Tail} (tailServed : ∀ block ∈ tail.blocks, served block) :
    RebuildOutcome served fuel tail
      (updater.rebuild rpc isDone fuel tail) := by
  cases updater with
  | confirmationDepth updater =>
      simp only [rebuild, ConfirmationDepthChainStatusUpdater.rebuild]
      cases fetched :
          ConfirmationDepthChainStatusUpdater.getBlockWithConfirmations rpc
            updater.softConfirmations with
      | error error => exact .environment trivial
      | ok start =>
          have startServed :=
            ConfirmationDepthChainStatusUpdater.getBlockWithConfirmations_served
              serves fetched
          exact rebuildFrom_outcome tree serves.servesParents startServed
            tailServed (updater.afterJoin_keepsJoined tail start)
  | finalityTag =>
      simp only [rebuild, FinalityTagChainStatusUpdater.rebuild]
      rcases FinalityTagChainStatusUpdater.finalizedAndLatest_spec serves with
        ⟨error, failed, environment⟩ |
        ⟨finalized, latest, answered, _, latestServed, order⟩
      · rw [failed]
        exact .environment environment
      · rw [answered]
        apply rebuildFrom_outcome tree _ latestServed tailServed
          (FinalityTagChainStatusUpdater.afterJoin_keepsJoined order tail)
        apply FinalityTagChainStatusUpdater.parentFromCache_servesParents serves
        apply FinalityTagChainStatusUpdater.cacheOrEmpty_served serves

end Rebuild

end RiskManagement
