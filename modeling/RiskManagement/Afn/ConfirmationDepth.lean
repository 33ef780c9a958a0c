import RiskManagement.Library.Checked
import RiskManagement.Afn.FinalizedAdoption

/-!
# How deep a stable block lies

The updater by confirmation depth keeps at most one block more than the depth,
and the tail is full whenever its stable tip has moved.
-/

namespace RiskManagement

/-! ### The two loops after the walk -/

theorem Tail.stableTip_eq_of_head? {tail : Tail} {first : Block}
    (isFirst : tail.blocks.head? = some first) : tail.stableTip = first := by
  rw [List.head?_eq_some_head tail.nonempty] at isFirst
  exact Option.some.inj isFirst

theorem length_popFrontLongerThan (len : Nat) (deque : List Block) :
    (popFrontLongerThan len deque).length = min len deque.length := by
  induction deque with
  | nil => simp [popFrontLongerThan]
  | cons front rest ih =>
      rw [popFrontLongerThan]
      split
      · rename_i longer
        rw [ih]
        rw [List.length_cons] at longer ⊢
        omega
      · rename_i notLonger
        omega

theorem popFrontLongerThan_of_le {len : Nat} {deque : List Block}
    (short : deque.length ≤ len) : popFrontLongerThan len deque = deque := by
  cases deque with
  | nil => rfl
  | cons front rest => rw [popFrontLongerThan, if_neg (by omega)]

/-- Extended towards a length, the deque reaches it or the stable tip. -/
theorem extendFromTail_reaches (len : Nat) {tail : Tail} {front : Block}
    (rest : List Block) (member : front ∈ tail.blocks) :
    ∃ first above, extendFromTail
        (fun front rest => decide ((front :: rest).length < len))
        tail front rest = first :: above ∧
      (len ≤ (first :: above).length ∨ first = tail.stableTip) := by
  fun_induction extendFromTail
      (fun front rest => decide ((front :: rest).length < len))
      tail front rest with
  | case1 front rest wanted predecessor found ih =>
      exact ih (Tail.predecessor_eq_some_iff.mp found).1
  | case2 front rest wanted missing =>
      refine ⟨front, rest, rfl, .inr ?_⟩
      apply Tail.eq_of_number_eq member tail.stableTip_mem
      by_contra different
      have notBelow := tail.stableTip_number_le member
      rw [← UInt64.toNat_inj] at different
      obtain ⟨predecessor, found⟩ :=
        Tail.exists_predecessor (Tail.contains_of_mem member) (by omega)
      rw [found] at missing
      cases missing
  | case3 front rest notWanted =>
      rw [decide_eq_true_eq, not_lt] at notWanted
      exact ⟨front, rest, rfl, .inl notWanted⟩

namespace ConfirmationDepthChainStatusUpdater

variable {served : Block → Prop} {self : ConfirmationDepthChainStatusUpdater}

/-- The deque of the two loops is short enough, and full unless it still
starts at the old stable tip. -/
theorem afterJoin_depth {tail : Tail} {front : Block} {rest newTail :
      List Block} (member : front ∈ tail.blocks)
    (kept : self.afterJoin tail front rest = some newTail) :
    newTail.length ≤ self.hardConfirmations + 1 ∧
      (newTail.length = self.hardConfirmations + 1 ∨
        newTail.head? = some tail.stableTip) := by
  obtain ⟨first, above, extended, reaches⟩ :=
    extendFromTail_reaches (self.hardConfirmations + 1) rest member
  rw [afterJoin, extended, Option.some.injEq] at kept
  have length := length_popFrontLongerThan (self.hardConfirmations + 1)
    (first :: above)
  rw [kept] at length
  refine ⟨by omega, ?_⟩
  by_cases full : self.hardConfirmations + 1 ≤ (first :: above).length
  · left
    omega
  · right
    rw [popFrontLongerThan_of_le (by omega)] at kept
    rcases reaches with reached | isStableTip
    · exact absurd reached full
    · rw [← kept, List.head?_cons, isStableTip]

/-! ### One update -/

abbrev asUpdater (self : ConfirmationDepthChainStatusUpdater) :
    ChainStatusUpdater :=
  .confirmationDepth self

/-- An update that returns a good status keeps the tail or builds one of the
right depth. -/
theorem step_depth (tree : Block.view.IsTree served) {tail newTail : Tail}
    (tailServed : ∀ block ∈ tail.blocks, served block)
    (step : self.asUpdater.Step served (.good tail) (.good newTail)) :
    newTail = tail ∨
      newTail.blocks.length ≤ self.hardConfirmations + 1 ∧
        (newTail.blocks.length = self.hardConfirmations + 1 ∨
          newTail.stableTip = tail.stableTip) := by
  obtain ⟨rpc, isDone, fuel, serves, success⟩ := step
  rw [ChainStatusUpdater.update_good] at success
  obtain ⟨rebuilt, success, finished⟩ := Checked.bind_eq_ok_iff.mp success
  obtain ⟨start, fetched, success⟩ := Checked.bind_eq_ok_iff.mp success
  obtain ⟨outcome, walked, success⟩ := Checked.bind_eq_ok_iff.mp success
  have startServed : served start := by
    cases answered : getBlockWithConfirmations rpc self.softConfirmations with
    | error error =>
        rw [answered] at fetched
        cases fetched
    | ok block =>
        rw [answered] at fetched
        cases fetched
        exact getBlockWithConfirmations_served serves answered
  have walk := walkBack_walks walked
  cases outcome with
  | finalityViolated walkedTail =>
      cases success
      cases finished
  | rewound walkedTail =>
      cases success
      cases finished
      exact .inl rfl
  | joined front rest =>
      right
      have deque : ServedDeque served (front :: rest) :=
        walk.servedDeque tree serves.servesParents (.singleton startServed)
      have member := walk.joined_mem tree tailServed deque
      cases kept : self.afterJoin tail front rest with
      | none =>
          simp only [kept] at success
          cases success
      | some built =>
          simp only [kept] at success
          cases success
          obtain ⟨_, other, isGood, isBuilt⟩ :=
            Rebuilt.finish_deque_eq_ok finished
          cases isGood
          obtain ⟨atMost, full⟩ := afterJoin_depth member kept
          rw [isBuilt]
          refine ⟨atMost, ?_⟩
          rcases full with full | isFirst
          · exact .inl full
          · rw [← isBuilt] at isFirst
            exact .inr (Tail.stableTip_eq_of_head? isFirst)

/-- Where the stable tip has moved, the new tail is full. -/
theorem step_full (tree : Block.view.IsTree served) {tail newTail : Tail}
    (tailServed : ∀ block ∈ tail.blocks, served block)
    (step : self.asUpdater.Step served (.good tail) (.good newTail))
    (moved : newTail.stableTip ≠ tail.stableTip) :
    newTail.blocks.length = self.hardConfirmations + 1 := by
  rcases step_depth tree tailServed step with same | ⟨_, full | kept⟩
  · exact absurd (congrArg Tail.stableTip same) moved
  · exact full
  · exact absurd kept moved

/-! ### Runs -/

theorem length_le_of_reachable (tree : Block.view.IsTree served)
    {status : ChainStatus}
    (reachable : self.asUpdater.Reachable served status) :
    ∀ tail, status = .good tail →
      tail.blocks.length ≤ self.hardConfirmations + 1 := by
  induction reachable with
  | @initial rpc status serves started =>
      intro tail isGood
      rcases self.asUpdater.initial_eq serves with
        ⟨block, single, _, isSingle, isInitial⟩ | ⟨error, failed⟩
      · rw [isInitial, isGood] at started
        cases started
        rw [isSingle, List.length_singleton]
        omega
      · rw [failed] at started
        cases started
  | @update status next before step ih =>
      intro newTail isGood
      subst isGood
      cases status with
      | finalityViolated =>
          obtain ⟨rpc, isDone, fuel, _, success⟩ := step
          rw [ChainStatusUpdater.update_finalityViolated] at success
          cases success
      | good tail =>
          rcases step_depth tree (before.statusServed tree) step with
            same | ⟨atMost, _⟩
          · rw [same]
            exact ih tail rfl
          · exact atMost

/-- A block is stable once the stable tip is the block or descends from it. -/
def Stable (block : Block) (status : ChainStatus) : Prop :=
  ∃ tail, status = .good tail ∧ Block.view.Descends tail.stableTip block

/-- The status is good, and on top of the block its tail has as many blocks as
the depth asks for. -/
def Buried (self : ConfirmationDepthChainStatusUpdater) (block : Block)
    (status : ChainStatus) : Prop :=
  ∃ tail above, status = .good tail ∧ tail.blocks = tail.stableTip :: above ∧
    above.length = self.hardConfirmations ∧
    ∀ other ∈ above, Block.view.Descends other block ∧ other ≠ block

/-- A block becomes stable in an update only when it is buried. -/
theorem buried_of_step (tree : Block.view.IsTree served) {block : Block}
    {status next : ChainStatus} (statusServed : status.Served served)
    (step : self.asUpdater.Step served status next)
    (notBefore : ¬Stable block status) (after : Stable block next) :
    self.Buried block next := by
  obtain ⟨newTail, rfl, descends⟩ := after
  cases status with
  | finalityViolated =>
      obtain ⟨rpc, isDone, fuel, _, success⟩ := step
      rw [ChainStatusUpdater.update_finalityViolated] at success
      cases success
  | good tail =>
      have moved : newTail.stableTip ≠ tail.stableTip := by
        intro same
        apply notBefore
        exact ⟨tail, rfl, same ▸ descends⟩
      have full := step_full tree statusServed step moved
      have split : newTail.blocks = newTail.stableTip :: newTail.blocks.tail :=
        (List.cons_head_tail newTail.nonempty).symm
      refine ⟨newTail, newTail.blocks.tail, rfl, split, ?_, ?_⟩
      · rw [List.length_tail]
        omega
      · intro other member
        have inTail : other ∈ newTail.blocks := List.mem_of_mem_tail member
        refine ⟨(newTail.descends_stableTip inTail).trans descends, ?_⟩
        intro same
        obtain ⟨index, inside, isOther⟩ := List.getElem_of_mem member
        rw [List.length_tail] at inside
        rw [List.getElem_tail] at isOther
        have height := newTail.number_getElem (index + 1) (by omega)
        have notBelow : block.number.toNat ≤ newTail.stableTip.number.toNat :=
          descends.height_le
        rw [isOther, same] at height
        omega

abbrev Run (self : ConfirmationDepthChainStatusUpdater)
    (served : Block → Prop) : ChainStatus → ChainStatus → Prop :=
  Relation.ReflTransGen (self.asUpdater.Step served)

/-- A run in which a block becomes stable has an update that buries it. -/
theorem buried_of_run (tree : Block.view.IsTree served)
    {first later : ChainStatus}
    (reachable : self.asUpdater.Reachable served first)
    (run : self.Run served first later) {block : Block}
    (notBefore : ¬Stable block first) (after : Stable block later) :
    ∃ before became, self.Run served first before ∧ ¬Stable block before ∧
      self.asUpdater.Step served before became ∧
      self.Buried block became ∧ self.Run served became later := by
  induction run with
  | refl => exact absurd after notBefore
  | @tail middle later prior step ih =>
      by_cases already : Stable block middle
      · obtain ⟨before, became, earlier, notStable, turned, buried, rest⟩ :=
          ih already
        exact ⟨before, became, earlier, notStable, turned, buried,
          rest.tail step⟩
      · have middleServed := (reachable.of_run prior).statusServed tree
        exact ⟨middle, later, prior, already, step,
          buried_of_step tree middleServed step already after, .refl⟩

/-- What holds of any two statuses of a run, one after the other. -/
structure ConfirmsByDepth (self : ConfirmationDepthChainStatusUpdater)
    (served : Block → Prop) (first later : ChainStatus) : Prop where
  length_le : ∀ tail, later = .good tail →
    tail.blocks.length ≤ self.hardConfirmations + 1
  full_when_moved : ∀ tail newTail, later = .good tail →
    self.asUpdater.Step served later (.good newTail) →
    newTail.stableTip ≠ tail.stableTip →
      newTail.blocks.length = self.hardConfirmations + 1
  buried_when_stable : ∀ block, ¬Stable block first → Stable block later →
    ∃ before became, self.Run served first before ∧ ¬Stable block before ∧
      self.asUpdater.Step served before became ∧
      self.Buried block became ∧ self.Run served became later

/-- The depth is kept along every run. -/
theorem confirmation_depth (tree : Block.view.IsTree served)
    (self : ConfirmationDepthChainStatusUpdater) {first later : ChainStatus}
    (reachable : self.asUpdater.Reachable served first)
    (run : self.Run served first later) :
    self.ConfirmsByDepth served first later := by
  have laterReachable := reachable.of_run run
  constructor
  · exact length_le_of_reachable tree laterReachable
  · intro tail newTail isGood step moved
    subst isGood
    exact step_full tree (laterReachable.statusServed tree) step moved
  · intro block notBefore after
    exact buried_of_run tree reachable run notBefore after

def threeBlocks : List Block := [chainBlock 0, chainBlock 1, chainBlock 2]

/-- A node on three blocks whose latest one is given. -/
def threeBlockRpc (latest : Block) : BlockRpc where
  getBlock
    | .latest => .ok latest
    | .height number => answer (threeBlocks.find? (·.number = number))
    | .hash hash => answer (threeBlocks.find? (·.hash = hash))
    | _ => .error .notFound
  getBlocks := fun _ => .error .notFound
where
  answer : Option Block → Except RpcError Block
    | some block => .ok block
    | none => .error .notFound

theorem threeBlocks_isTree : Block.view.IsTree (· ∈ threeBlocks) where
  hash_injective left right leftOn rightOn := by
    have all : ∀ left ∈ threeBlocks, ∀ right ∈ threeBlocks,
        left.hash = right.hash → left = right := by decide +kernel
    exact all left leftOn right rightOn
  parent_height parent child parentOn childOn := by
    have all : ∀ parent ∈ threeBlocks, ∀ child ∈ threeBlocks,
        parent.hash = child.parentHash →
          parent.number.toNat + 1 = child.number.toNat := by decide +kernel
    exact all parent parentOn child childOn

theorem threeBlockRpc_answer_eq_ok {found : Option Block} {block : Block}
    (answered : threeBlockRpc.answer found = .ok block) :
    found = some block := by
  cases found with
  | none => cases answered
  | some other =>
      cases answered
      rfl

theorem threeBlockRpc_serves {latest : Block}
    (latestOn : latest ∈ threeBlocks) :
    (threeBlockRpc latest).Serves (· ∈ threeBlocks) := by
  constructor
  · intro identifier block answered
    cases identifier with
    | latest =>
        cases answered
        exact latestOn
    | height number =>
        exact List.mem_of_find?_eq_some (threeBlockRpc_answer_eq_ok answered)
    | hash hash =>
        exact List.mem_of_find?_eq_some (threeBlockRpc_answer_eq_ok answered)
    | earliest => cases answered
    | safe => cases answered
    | finalized => cases answered
    | pending => cases answered
  · intro hash block answered
    have named := List.find?_some (threeBlockRpc_answer_eq_ok answered)
    simpa using named
  · intro identifiers blocks block answered
    cases answered

/-- Two neighbours of the three blocks. -/
def neighbours (lower upper : Block)
    (isParent : Block.view.IsParent lower upper) : Tail where
  blocks := [lower, upper]
  nonempty := List.cons_ne_nil _ _
  linked := NodeView.linked_cons_cons.mpr
    ⟨isParent, NodeView.Linked.singleton upper⟩

/-- With one confirmation, block 1 becomes stable under block 2. -/
theorem confirmation_depth_threeBlocks :
    ∃ first later : Tail,
      first.blocks = [chainBlock 0, chainBlock 1] ∧
        later.blocks = [chainBlock 1, chainBlock 2] ∧
        ConfirmsByDepth ⟨0, 1⟩ (· ∈ threeBlocks) (.good first)
          (.good later) := by
  refine ⟨neighbours (chainBlock 0) (chainBlock 1) ⟨rfl, rfl⟩,
    neighbours (chainBlock 1) (chainBlock 2) ⟨rfl, rfl⟩, rfl, rfl, ?_⟩
  have initial : ChainStatusUpdater.Reachable
      (ConfirmationDepthChainStatusUpdater.mk 0 1).asUpdater
      (· ∈ threeBlocks) (.good (.single (chainBlock 0))) :=
    .initial (threeBlockRpc_serves List.mem_cons_self) (by decide)
  apply confirmation_depth threeBlocks_isTree
  · apply initial.update
    exact ⟨threeBlockRpc (chainBlock 1), fun _ => false, 3,
      threeBlockRpc_serves (by decide), by decide +kernel⟩
  · apply Relation.ReflTransGen.single
    exact ⟨threeBlockRpc (chainBlock 2), fun _ => false, 3,
      threeBlockRpc_serves (by decide), by decide +kernel⟩

end ConfirmationDepthChainStatusUpdater

end RiskManagement
