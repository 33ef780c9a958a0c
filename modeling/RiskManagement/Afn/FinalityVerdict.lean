import RiskManagement.Afn.FinalityAppendOnly

/-!
# The finality verdict is exact

On a tree of blocks whose parents can all be fetched, an update of a good
status decides one question: is the stable tip the ancestor of the starting
block at its own height?  The walk is compared with `ancestor`, the parent
fetched so many times.
-/

namespace RiskManagement

/-- The block reached by fetching the parent that many times. -/
def BlockRpc.ancestor (rpc : BlockRpc) :
    Nat → Block → Except RpcError Block
  | 0, block => .ok block
  | steps + 1, block =>
      match rpc.getBlock (.hash block.parentHash) with
      | .error error => .error error
      | .ok parent => rpc.ancestor steps parent

theorem BlockRpc.ancestor_congr {rpc other : BlockRpc}
    (sameBlock : other.getBlock = rpc.getBlock) (steps : Nat)
    (block : Block) :
    other.ancestor steps block = rpc.ancestor steps block := by
  induction steps generalizing block with
  | zero => rfl
  | succ steps induction =>
      simp only [BlockRpc.ancestor, sameBlock, induction]

/-- A node that serves the tree and never fails to answer with a parent. -/
structure BlockRpc.Answers (rpc : BlockRpc) (served : Block → Prop) : Prop
    where
  serves : rpc.Serves served
  parent_answered : ∀ block, served block → 0 < block.number.toNat →
    ∃ parent, rpc.getBlock (.hash block.parentHash) = .ok parent

variable {served : Block → Prop} {rpc : BlockRpc}

section Ancestor

theorem BlockRpc.Answers.parent (answers : rpc.Answers served)
    (tree : Block.view.IsTree served) {block : Block}
    (blockServed : served block) (above : 0 < block.number.toNat) :
    ∃ parent, rpc.getBlock (.hash block.parentHash) = .ok parent ∧
      served parent ∧ Block.view.IsParent parent block := by
  obtain ⟨parent, answered⟩ := answers.parent_answered block blockServed above
  have parentServed := answers.serves.getBlock_served _ _ answered
  refine ⟨parent, answered, parentServed, ?_⟩
  apply tree.isParent parentServed blockServed
  exact answers.serves.getBlock_hash _ _ answered

theorem ancestor_served (tree : Block.view.IsTree served)
    (serves : rpc.Serves served) {steps : Nat} {block reached : Block}
    (blockServed : served block)
    (fetched : rpc.ancestor steps block = .ok reached) :
    served reached ∧ reached.number.toNat + steps = block.number.toNat := by
  induction steps generalizing block with
  | zero =>
      cases fetched
      exact ⟨blockServed, rfl⟩
  | succ steps induction =>
      rw [BlockRpc.ancestor] at fetched
      split at fetched
      · cases fetched
      · rename_i parent answered
        have parentServed := serves.getBlock_served _ _ answered
        have link := tree.isParent parentServed blockServed
          (serves.getBlock_hash _ _ answered)
        have step := (Block.isParent_iff.mp link).2
        obtain ⟨reachedServed, height⟩ := induction parentServed fetched
        exact ⟨reachedServed, by omega⟩

/-- A tail's own block has the stable tip as its ancestor. -/
theorem ancestor_of_mem (tree : Block.view.IsTree served)
    (answers : rpc.Answers served) {tail : Tail}
    (tailServed : ∀ block ∈ tail.blocks, served block) (index : Nat)
    (inside : index < tail.blocks.length) :
    rpc.ancestor index tail.blocks[index] = .ok tail.stableTip := by
  induction index with
  | zero =>
      rw [BlockRpc.ancestor, ← List.head_eq_getElem tail.nonempty]
      rfl
  | succ index induction =>
      have below : index < tail.blocks.length := by omega
      have blockServed := tailServed _ (List.getElem_mem inside)
      have previousServed := tailServed _ (List.getElem_mem below)
      have link := tail.linked.isParent_getElem index inside
      have height := (Block.isParent_iff.mp link).2
      obtain ⟨parent, answered, parentServed, parentLink⟩ :=
        answers.parent tree blockServed (by omega)
      have same : parent = tail.blocks[index] :=
        tree.parent_unique parentServed previousServed parentLink.1 link.1
      rw [BlockRpc.ancestor, answered, same]
      exact induction below

theorem ancestor_stableTip_of_mem (tree : Block.view.IsTree served)
    (answers : rpc.Answers served) {tail : Tail}
    (tailServed : ∀ block ∈ tail.blocks, served block) {block : Block}
    (member : block ∈ tail.blocks) :
    rpc.ancestor (block.number.toNat - tail.stableTip.number.toNat) block =
      .ok tail.stableTip := by
  obtain ⟨index, inside, rfl⟩ := List.getElem_of_mem member
  rw [tail.number_getElem index inside, Nat.add_sub_cancel_left]
  exact ancestor_of_mem tree answers tailServed index inside

end Ancestor

section Walk

variable {parentOf : Bytes32 → Except RpcError Block}
  {conflicts : Block → Bool} {tail : Tail}

/-- On served blocks above height zero the walk's parents are the node's. -/
def AgreesWith (parentOf : Bytes32 → Except RpcError Block)
    (rpc : BlockRpc) (served : Block → Prop) : Prop :=
  ∀ block, served block → 0 < block.number.toNat →
    parentOf block.parentHash = rpc.getBlock (.hash block.parentHash)

theorem walkBack_congr
    (serves : rpc.Serves served) (agrees : AgreesWith parentOf rpc served)
    {isDone : Nat → Bool} {fuel : Nat} {head : Block} {rest : List Block}
    (headServed : served head) :
    walkBack parentOf conflicts isDone tail fuel head rest =
      walkBack (fun hash => rpc.getBlock (.hash hash)) conflicts isDone tail
        fuel head rest := by
  induction fuel generalizing head rest with
  | zero => rfl
  | succ fuel induction =>
      rw [walkBack, walkBack]
      by_cases stable : head.number = tail.stableTip.number
      · simp only [stable, ↓reduceIte]
      · by_cases below : head.number < tail.stableTip.number
        · simp only [below, ↓reduceIte]
        · have above : 0 < head.number.toNat :=
            Nat.zero_lt_of_lt (Word64.toNat_lt_of_ne_of_not_lt stable below)
          rw [agrees head headServed above]
          cases answered : rpc.getBlock (.hash head.parentHash) with
          | error error => rfl
          | ok parent =>
              have parentServed := serves.getBlock_served _ _ answered
              simp only [induction parentServed]

theorem walkBack_eq_ok (tree : Block.view.IsTree served)
    (answers : rpc.Answers served) {fuel : Nat} {head : Block}
    {rest : List Block} (headServed : served head)
    (enough : head.number.toNat - tail.stableTip.number.toNat < fuel) :
    ∃ outcome, walkBack (fun hash => rpc.getBlock (.hash hash)) conflicts
      (fun _ => false) tail fuel head rest = .ok outcome := by
  induction fuel generalizing head rest with
  | zero => exact absurd enough (Nat.not_lt_zero _)
  | succ fuel induction =>
      rw [walkBack]
      by_cases contained : tail.contains head
      · simp [contained]
      · by_cases stable : head.number = tail.stableTip.number
        · simp [contained, stable]
        · by_cases conflict : conflicts head
          · simp [contained, stable, conflict]
          · by_cases below : head.number < tail.stableTip.number
            · simp [contained, stable, conflict, below]
            · have above : tail.stableTip.number.toNat <
                  head.number.toNat :=
                Word64.toNat_lt_of_ne_of_not_lt stable below
              obtain ⟨parent, answered, parentServed, link⟩ :=
                answers.parent tree headServed (by omega)
              have height := (Block.isParent_iff.mp link).2
              simp only [contained, stable, conflict, below, answered,
                Bool.false_eq_true, ↓reduceIte]
              apply induction parentServed
              omega

/-- No ancestor of the starting block conflicts with the finalized one. -/
def ConflictFree (rpc : BlockRpc) (conflicts : Block → Bool)
    (start : Block) : Prop :=
  ∀ steps reached, rpc.ancestor steps start = .ok reached →
    conflicts reached = false

theorem ConflictFree.parent {start parent : Block}
    (free : ConflictFree rpc conflicts start)
    (answered : rpc.getBlock (.hash start.parentHash) = .ok parent) :
    ConflictFree rpc conflicts parent := by
  intro steps reached fetched
  apply free (steps + 1)
  rw [BlockRpc.ancestor, answered]
  exact fetched

/-- What the walk decides from a block that is not below the stable tip. -/
inductive Verdict (tail : Tail) (ancestor : Except RpcError Block) :
    WalkBack → Prop where
  | joined {front : Block} {rest : List Block} :
      ancestor = .ok tail.stableTip →
      Verdict tail ancestor (.joined front rest)
  | violated {newTail : List Block} {other : Block} :
      ancestor = .ok other → other ≠ tail.stableTip →
      Verdict tail ancestor (.finalityViolated newTail)

theorem Walks.verdict (tree : Block.view.IsTree served)
    (answers : rpc.Answers served)
    (tailServed : ∀ block ∈ tail.blocks, served block)
    {head : Block} {rest : List Block} {outcome : WalkBack}
    (walk : Walks (fun hash => rpc.getBlock (.hash hash)) conflicts tail head
      rest outcome)
    (headServed : served head) (free : ConflictFree rpc conflicts head)
    (notBelow : tail.stableTip.number.toNat ≤ head.number.toNat) :
    Verdict tail
      (rpc.ancestor (head.number.toNat - tail.stableTip.number.toNat) head)
      outcome := by
  induction walk with
  | joined contained =>
      apply Verdict.joined
      apply ancestor_stableTip_of_mem tree answers tailServed
      exact (Tail.contains_iff_mem tree tailServed headServed).mp contained
  | @stable head rest outside same =>
      apply Verdict.violated
      · rw [same, Nat.sub_self]
        rfl
      · intro isStable
        have contained : tail.contains head = true :=
          (Tail.contains_iff_mem tree tailServed headServed).mpr
            (isStable ▸ tail.stableTip_mem)
        rw [outside] at contained
        cases contained
  | conflict _ _ conflict =>
      rw [free 0 _ rfl] at conflict
      cases conflict
  | rewound _ _ below => exact absurd below (Nat.not_lt.mpr notBelow)
  | @push head parent rest outcome _ _ above answered _ induction =>
      have parentServed := answers.serves.getBlock_served _ _ answered
      have link := tree.isParent parentServed headServed
        (answers.serves.getBlock_hash _ _ answered)
      have height := (Block.isParent_iff.mp link).2
      have steps : head.number.toNat - tail.stableTip.number.toNat =
          parent.number.toNat - tail.stableTip.number.toNat + 1 := by
        omega
      rw [steps, BlockRpc.ancestor, answered]
      apply induction parentServed (free.parent answered)
      omega

theorem Walks.eq_rewound {head : Block} {rest : List Block} {outcome : WalkBack}
    (walk : Walks parentOf conflicts tail head rest outcome)
    (agrees : conflicts head = false)
    (below : head.number.toNat < tail.stableTip.number.toNat) :
    outcome = .rewound (head :: rest) := by
  cases walk with
  | joined contained =>
      obtain ⟨block, member, same, _⟩ := Tail.contains_iff.mp contained
      have notBelow := tail.stableTip_number_le member
      rw [same] at notBelow
      exact absurd below (Nat.not_lt.mpr notBelow)
  | stable _ same =>
      rw [same] at below
      exact absurd below (Nat.lt_irrefl _)
  | conflict _ _ conflict =>
      rw [agrees] at conflict
      cases conflict
  | rewound _ _ _ => rfl
  | push _ _ above _ _ => exact absurd above (Nat.lt_asymm below)

end Walk

/-! ## The verdict of an update -/

/-- The starting block of an update and what its walk is made with. -/
structure WalkPlan where
  start : Block
  parentOf : Bytes32 → Except RpcError Block
  conflicts : Block → Bool
  afterJoin : Tail → Block → List Block → Option (List Block)

namespace WalkPlan

/-- The walk that a plan stands for. -/
def walk (plan : WalkPlan) (isDone : Nat → Bool) (fuel : Nat) (tail : Tail) :
    Except UpdateError WalkBack :=
  walkBack plan.parentOf plan.conflicts isDone tail fuel plan.start []

/-- The status an update makes of the end of its walk. -/
def conclude (plan : WalkPlan) (tail : Tail) :
    WalkBack → Except UpdateError ChainStatus
  | .finalityViolated _ => .ok .finalityViolated
  | .rewound _ => .ok (.good tail)
  | .joined front rest =>
      match plan.afterJoin tail front rest with
      | none => .error .unwrapNone
      | some newTail => Rebuilt.finish (.deque newTail)

/-- A plan whose walk reads the node's tree and never meets a conflict. -/
structure Sound (plan : WalkPlan) (rpc : BlockRpc) (served : Block → Prop)
    (tail : Tail) : Prop where
  start_served : served plan.start
  servesParents : ServesParents plan.parentOf served
  agrees : AgreesWith plan.parentOf rpc served
  conflictFree : ConflictFree rpc plan.conflicts plan.start
  keepsJoined : KeepsJoined tail plan.start plan.afterJoin

/-- The plans differ at most in how they fetch parents. -/
structure SameButParents (left right : WalkPlan) : Prop where
  start : left.start = right.start
  conflicts : left.conflicts = right.conflicts
  afterJoin : left.afterJoin = right.afterJoin

end WalkPlan

namespace ChainStatusUpdater

/-- What an update has decided before it walks. -/
def plan (rpc : BlockRpc) (tail : Tail) :
    ChainStatusUpdater → Except UpdateError WalkPlan
  | .confirmationDepth updater =>
      match ConfirmationDepthChainStatusUpdater.getBlockWithConfirmations rpc
          updater.softConfirmations with
      | .error error => .error (.rpc error)
      | .ok start =>
          .ok ⟨start, fun hash => rpc.getBlock (.hash hash), fun _ => false,
            updater.afterJoin⟩
  | .finalityTag =>
      match FinalityTagChainStatusUpdater.finalizedAndLatest rpc with
      | .error error => .error error
      | .ok (finalized, latest) =>
          .ok ⟨latest,
            FinalityTagChainStatusUpdater.parentFromCache
              (FinalityTagChainStatusUpdater.cacheOrEmpty rpc tail.tip.number
                latest.number) rpc,
            FinalityTagChainStatusUpdater.conflictsWith finalized,
            FinalityTagChainStatusUpdater.afterJoin finalized⟩

theorem rebuild_eq_plan (updater : ChainStatusUpdater) (rpc : BlockRpc)
    (isDone : Nat → Bool) (fuel : Nat) (tail : Tail) :
    updater.rebuild rpc isDone fuel tail =
      (updater.plan rpc tail).bind fun plan =>
        rebuildFrom plan.parentOf plan.conflicts plan.afterJoin isDone fuel
          tail plan.start := by
  cases updater with
  | confirmationDepth updater =>
      simp only [rebuild, ConfirmationDepthChainStatusUpdater.rebuild, plan]
      cases ConfirmationDepthChainStatusUpdater.getBlockWithConfirmations rpc
        updater.softConfirmations with
      | error error => rfl
      | ok start => rfl
  | finalityTag =>
      simp only [rebuild, FinalityTagChainStatusUpdater.rebuild, plan]
      cases FinalityTagChainStatusUpdater.finalizedAndLatest rpc with
      | error error => rfl
      | ok blocks => rfl

/-- The block an update starts from: the one `softConfirmations` below the
latest, or the latest one, with a finalized block that is it or its
ancestor. -/
def StartsFrom (rpc : BlockRpc) (start : Block) : ChainStatusUpdater → Prop
  | .confirmationDepth updater =>
      ConfirmationDepthChainStatusUpdater.getBlockWithConfirmations rpc
        updater.softConfirmations = .ok start
  | .finalityTag =>
      ∃ finalized steps,
        FinalityTagChainStatusUpdater.finalizedAndLatest rpc =
          .ok (finalized, start) ∧
        rpc.ancestor steps start = .ok finalized

end ChainStatusUpdater

namespace FinalityTagChainStatusUpdater

/-- A cached parent is the block the node would have answered with. -/
theorem parentFromCache_agreesWith (tree : Block.view.IsTree served)
    (answers : rpc.Answers served) {cache : List Block}
    (cacheServed : ∀ block ∈ cache, served block) :
    AgreesWith (parentFromCache cache rpc) rpc served := by
  intro block blockServed above
  obtain ⟨parent, answered, parentServed, link⟩ :=
    answers.parent tree blockServed above
  cases fetched : parentFromCache cache rpc block.parentHash with
  | error error =>
      rw [parentFromCache] at fetched
      split at fetched
      · cases fetched
      · exact fetched.symm
  | ok cached =>
      obtain ⟨cachedServed, cachedHash⟩ :=
        parentFromCache_servesParents answers.serves cacheServed _ _ fetched
      rw [answered, tree.parent_unique cachedServed parentServed cachedHash
        link.1]

/-- The finalized block is the only ancestor of its own height. -/
theorem conflictsWith_conflictFree (tree : Block.view.IsTree served)
    (serves : rpc.Serves served) {finalized start : Block} {steps : Nat}
    (startServed : served start)
    (ancestor : rpc.ancestor steps start = .ok finalized) :
    ConflictFree rpc (conflictsWith finalized) start := by
  intro otherSteps reached fetched
  have finalizedHeight := (ancestor_served tree serves startServed ancestor).2
  have height := (ancestor_served tree serves startServed fetched).2
  rw [conflictsWith]
  by_cases same : reached.number = finalized.number
  · rw [same] at height
    have equalSteps : otherSteps = steps := by omega
    rw [equalSteps, ancestor] at fetched
    cases fetched
    simp
  · simp [same]

end FinalityTagChainStatusUpdater

namespace ChainStatusUpdater

theorem plan_sound (tree : Block.view.IsTree served)
    (answers : rpc.Answers served) {updater : ChainStatusUpdater}
    {start : Block} (starts : updater.StartsFrom rpc start) (tail : Tail) :
    ∃ plan, updater.plan rpc tail = .ok plan ∧ plan.start = start ∧
      plan.Sound rpc served tail := by
  cases updater with
  | confirmationDepth updater =>
      change ConfirmationDepthChainStatusUpdater.getBlockWithConfirmations rpc
        updater.softConfirmations = .ok start at starts
      simp only [plan, starts]
      refine ⟨_, rfl, rfl, ?_⟩
      constructor
      · exact
          ConfirmationDepthChainStatusUpdater.getBlockWithConfirmations_served
            answers.serves starts
      · exact answers.serves.servesParents
      · intro block _ _
        rfl
      · intro steps reached _
        rfl
      · exact updater.afterJoin_keepsJoined tail start
  | finalityTag =>
      obtain ⟨finalized, steps, answered, ancestor⟩ := starts
      have cacheServed :=
        FinalityTagChainStatusUpdater.cacheOrEmpty_served answers.serves
          tail.tip.number start.number
      have blocks := FinalityTagChainStatusUpdater.finalizedAndLatest_spec
        answers.serves
      rw [answered] at blocks
      rcases blocks with ⟨_, failed, _⟩ | ⟨_, _, same, _, startServed, order⟩
      · cases failed
      · cases same
        simp only [plan, answered]
        refine ⟨_, rfl, rfl, ?_⟩
        constructor
        · exact startServed
        · exact FinalityTagChainStatusUpdater.parentFromCache_servesParents
            answers.serves cacheServed
        · exact FinalityTagChainStatusUpdater.parentFromCache_agreesWith tree
            answers cacheServed
        · exact FinalityTagChainStatusUpdater.conflictsWith_conflictFree tree
            answers.serves startServed ancestor
        · exact FinalityTagChainStatusUpdater.afterJoin_keepsJoined order tail

/-- What an update of a good status decides, with its costs. -/
structure ExactVerdict (updater : ChainStatusUpdater) (rpc : BlockRpc)
    (served : Block → Prop) (fuel : Nat) (tail : Tail) (start : Block) :
    Prop where
  rewound_unchanged : start.number < tail.stableTip.number →
    updater.update rpc (fun _ => false) fuel (.good tail) = .ok (.good tail)
  violated_iff : tail.stableTip.number ≤ start.number →
    ∃ ancestor,
      rpc.ancestor (start.number.toNat - tail.stableTip.number.toNat) start =
        .ok ancestor ∧
      (updater.update rpc (fun _ => false) fuel (.good tail) =
          .ok .finalityViolated ↔ ancestor ≠ tail.stableTip) ∧
      (ancestor = tail.stableTip →
        ∃ newTail,
          updater.update rpc (fun _ => false) fuel (.good tail) =
            .ok (.good newTail) ∧ newTail.tip = start)
  cache_independent : ∀ other : BlockRpc, other.Serves served →
    other.getBlock = rpc.getBlock →
    other.getBlocks [.finalized, .latest] =
      rpc.getBlocks [.finalized, .latest] →
    updater.update other (fun _ => false) fuel (.good tail) =
      updater.update rpc (fun _ => false) fuel (.good tail)
  walk_short : ∃ plan outcome, updater.plan rpc tail = .ok plan ∧
    plan.start = start ∧ plan.walk (fun _ => false) fuel tail = .ok outcome ∧
    outcome.newTail.length ≤
      1 + (start.number.toNat - tail.stableTip.number.toNat)

section Exact

variable {updater : ChainStatusUpdater} {tail : Tail} {start : Block}
  {fuel : Nat}

/-- With fuel for the distance, the walk of a sound plan ends. -/
theorem walk_eq_ok (tree : Block.view.IsTree served)
    (answers : rpc.Answers served) {plan : WalkPlan}
    (sound : plan.Sound rpc served tail)
    (enough : plan.start.number.toNat - tail.stableTip.number.toNat < fuel) :
    ∃ outcome, plan.walk (fun _ => false) fuel tail = .ok outcome ∧
      Walks (fun hash => rpc.getBlock (.hash hash)) plan.conflicts tail
        plan.start [] outcome := by
  rw [WalkPlan.walk]
  rw [walkBack_congr answers.serves sound.agrees sound.start_served]
  obtain ⟨outcome, ended⟩ := walkBack_eq_ok tree answers sound.start_served
    enough
  exact ⟨outcome, ended, walkBack_walks ended⟩

/-- The update is what its walk and the two trimming loops make of it. -/
theorem update_of_walk {plan : WalkPlan}
    (planned : updater.plan rpc tail = .ok plan)
    {isDone : Nat → Bool} {outcome : WalkBack}
    (ended : plan.walk isDone fuel tail = .ok outcome) :
    updater.update rpc isDone fuel (.good tail) =
      plan.conclude tail outcome := by
  rw [WalkPlan.walk] at ended
  rw [update_good, rebuild_eq_plan, planned]
  simp only [Except.bind, bind, rebuildFrom, ended]
  cases outcome with
  | finalityViolated _ => rfl
  | rewound _ => rfl
  | joined front rest =>
      simp only [WalkPlan.conclude]
      cases plan.afterJoin tail front rest with
      | none => rfl
      | some newTail => rfl

/-- Where the walk joins the tail the update is good with the start as tip. -/
theorem update_of_joined (tree : Block.view.IsTree served)
    (answers : rpc.Answers served)
    (tailServed : ∀ block ∈ tail.blocks, served block) {plan : WalkPlan}
    (planned : updater.plan rpc tail = .ok plan)
    (sound : plan.Sound rpc served tail) {isDone : Nat → Bool}
    {front : Block} {rest : List Block}
    (ended : plan.walk isDone fuel tail = .ok (.joined front rest))
    (walk : Walks (fun hash => rpc.getBlock (.hash hash)) plan.conflicts tail
      plan.start [] (.joined front rest)) :
    ∃ newTail, updater.update rpc isDone fuel (.good tail) =
      .ok (.good newTail) ∧ newTail.tip = plan.start := by
  obtain ⟨newTail, kept, deque⟩ := walk.rebuiltDeque tree
    answers.serves.servesParents sound.start_served tailServed
    sound.keepsJoined
  refine ⟨⟨newTail, deque.nonempty, deque.joined.linked⟩, ?_,
    Tail.tip_of_last_suffix deque.last⟩
  rw [update_of_walk planned ended]
  simp only [WalkPlan.conclude, kept, Rebuilt.finish, deque.tailNew]

/-- Plans that differ at most in how they fetch parents rebuild the same. -/
theorem rebuild_congr (answers : rpc.Answers served) {other : BlockRpc}
    (otherServes : other.Serves served)
    (sameBlock : other.getBlock = rpc.getBlock) {plan otherPlan : WalkPlan}
    (planned : updater.plan rpc tail = .ok plan)
    (otherPlanned : updater.plan other tail = .ok otherPlan)
    (sound : plan.Sound rpc served tail)
    (otherSound : otherPlan.Sound other served tail)
    (same : otherPlan.SameButParents plan) (isDone : Nat → Bool) :
    updater.rebuild other isDone fuel tail =
      updater.rebuild rpc isDone fuel tail := by
  have startServed := otherSound.start_served
  rw [same.start] at startServed
  rw [rebuild_eq_plan, rebuild_eq_plan, planned, otherPlanned]
  simp only [Except.bind, rebuildFrom, same.start, same.conflicts,
    same.afterJoin]
  rw [walkBack_congr answers.serves sound.agrees sound.start_served,
    walkBack_congr otherServes otherSound.agrees startServed, sameBlock]

theorem finalityTag_plan_sameButParents {other : BlockRpc}
    {blocks : Block × Block}
    (answered : FinalityTagChainStatusUpdater.finalizedAndLatest rpc =
      .ok blocks)
    (otherAnswered : FinalityTagChainStatusUpdater.finalizedAndLatest other =
      .ok blocks) {plan otherPlan : WalkPlan}
    (planned : finalityTag.plan rpc tail = .ok plan)
    (otherPlanned : finalityTag.plan other tail = .ok otherPlan) :
    otherPlan.SameButParents plan := by
  simp only [ChainStatusUpdater.plan, answered] at planned
  simp only [ChainStatusUpdater.plan, otherAnswered] at otherPlanned
  cases planned
  cases otherPlanned
  exact ⟨rfl, rfl, rfl⟩

/-- Two nodes with the same answers by hash and by tag make the same update,
whatever they answer by height. -/
theorem update_cache_independent (tree : Block.view.IsTree served)
    (answers : rpc.Answers served)
    (starts : updater.StartsFrom rpc start) {other : BlockRpc}
    (otherServes : other.Serves served)
    (sameBlock : other.getBlock = rpc.getBlock)
    (sameTags : other.getBlocks [.finalized, .latest] =
      rpc.getBlocks [.finalized, .latest]) (isDone : Nat → Bool) :
    updater.update other isDone fuel (.good tail) =
      updater.update rpc isDone fuel (.good tail) := by
  cases updater with
  | confirmationDepth updater =>
      simp only [update, ConfirmationDepthChainStatusUpdater.update,
        ConfirmationDepthChainStatusUpdater.rebuild,
        ConfirmationDepthChainStatusUpdater.getBlockWithConfirmations,
        sameBlock]
  | finalityTag =>
      have otherAnswers : other.Answers served := by
        constructor
        · exact otherServes
        · rw [sameBlock]
          exact answers.parent_answered
      have sameStart : FinalityTagChainStatusUpdater.finalizedAndLatest other =
          FinalityTagChainStatusUpdater.finalizedAndLatest rpc := by
        simp only [FinalityTagChainStatusUpdater.finalizedAndLatest,
          FinalityTagChainStatusUpdater.getBlocksThatMustExist, sameTags]
      obtain ⟨plan, planned, _, sound⟩ := plan_sound tree answers starts tail
      obtain ⟨finalized, steps, answered, ancestor⟩ := starts
      have otherStarts : finalityTag.StartsFrom other start := by
        refine ⟨finalized, steps, sameStart.trans answered, ?_⟩
        rw [BlockRpc.ancestor_congr sameBlock]
        exact ancestor
      obtain ⟨otherPlan, otherPlanned, _, otherSound⟩ :=
        plan_sound tree otherAnswers otherStarts tail
      rw [update_good, update_good]
      rw [rebuild_congr answers otherServes sameBlock planned otherPlanned
        sound otherSound (finalityTag_plan_sameButParents answered
          (sameStart.trans answered) planned otherPlanned)]

/-- The verdict of either updater is exact. -/
theorem finality_verdict_exact (tree : Block.view.IsTree served)
    (updater : ChainStatusUpdater) (answers : rpc.Answers served)
    (tailServed : ∀ block ∈ tail.blocks, served block)
    (starts : updater.StartsFrom rpc start)
    (enough : start.number.toNat - tail.stableTip.number.toNat < fuel) :
    updater.ExactVerdict rpc served fuel tail start := by
  obtain ⟨plan, planned, rfl, sound⟩ := plan_sound tree answers starts tail
  obtain ⟨outcome, ended, walk⟩ := walk_eq_ok tree answers sound enough
  constructor
  · intro below
    have rewound := walk.eq_rewound (sound.conflictFree 0 _ rfl)
      (UInt64.lt_iff_toNat_lt.mp below)
    rw [update_of_walk planned ended, rewound]
    rfl
  · intro notBelow
    have verdict := walk.verdict tree answers tailServed sound.start_served
      sound.conflictFree (UInt64.le_iff_toNat_le.mp notBelow)
    cases verdict with
    | joined ancestor =>
        obtain ⟨newTail, good, tip⟩ := update_of_joined tree answers
          tailServed planned sound ended walk
        refine ⟨_, ancestor, ?_, fun _ => ⟨newTail, good, tip⟩⟩
        rw [good]
        simp
    | violated ancestor different =>
        refine ⟨_, ancestor, ?_, fun same => absurd same different⟩
        rw [update_of_walk planned ended]
        simp [WalkPlan.conclude, different]
  · intro other otherServes sameBlock sameTags
    exact update_cache_independent tree answers starts otherServes sameBlock
      sameTags _
  · refine ⟨plan, outcome, planned, rfl, ended, ?_⟩
    exact walk.length_le tree answers.serves.servesParents
      sound.start_served

end Exact

end ChainStatusUpdater

theorem twoBlockRpc_answers {latest : Block} (latestOn : OnTwoBlocks latest) :
    (twoBlockRpc latest).Answers OnTwoBlocks := by
  constructor
  · exact twoBlockRpc_serves latestOn
  · intro block blockOn above
    rcases blockOn with rfl | rfl
    · exact absurd above (by decide)
    · exact ⟨chainBlock 0, rfl⟩

/-- From block 1 the walk decides whether block 0 is its ancestor. -/
theorem finality_verdict_exact_twoBlocks :
    shallow.ExactVerdict (twoBlockRpc (chainBlock 1)) OnTwoBlocks 2
      (.single (chainBlock 0)) (chainBlock 1) := by
  apply ChainStatusUpdater.finality_verdict_exact onTwoBlocks_isTree
  · exact twoBlockRpc_answers (.inr rfl)
  · intro block member
    exact .inl (List.mem_singleton.mp member)
  · rfl
  · decide

end RiskManagement
