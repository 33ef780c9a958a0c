import RiskManagement.Afn.ChainStatusRebuild

/-!
# Finality is append-only

Whatever a node serves, an updater's stable tip only moves to descendants of
itself.  One update is inverted first; runs of updates follow by induction.
-/

namespace RiskManagement

variable {served : Block → Prop}

/-- A status whose blocks were all served. -/
def ChainStatus.Served (served : Block → Prop) : ChainStatus → Prop
  | .finalityViolated => True
  | .good tail => ∀ block ∈ tail.blocks, served block

/-- The same block, or a descendant, with a number that is not smaller. -/
structure Block.Advances (later earlier : Block) : Prop where
  descends : Block.view.Descends later earlier
  number_le : earlier.number ≤ later.number

theorem Block.Advances.of_descends {later earlier : Block}
    (descends : Block.view.Descends later earlier) :
    later.Advances earlier := by
  constructor
  · exact descends
  · exact UInt64.le_iff_toNat_le.mpr descends.height_le

/-- The blocks of a tail are consecutively numbered and linked by parent
hash, position by position. -/
theorem Tail.consecutive (tail : Tail) (index : Nat)
    (inside : index + 1 < tail.blocks.length) :
    tail.blocks[index].number.toNat + 1 =
        tail.blocks[index + 1].number.toNat ∧
      tail.blocks[index].hash = tail.blocks[index + 1].parentHash := by
  have link := tail.linked.isParent_getElem index inside
  exact ⟨link.2, link.1⟩

namespace ChainStatusUpdater

/-- One update that returns a status. -/
def Step (updater : ChainStatusUpdater) (served : Block → Prop)
    (status next : ChainStatus) : Prop :=
  ∃ rpc isDone fuel, BlockRpc.Serves rpc served ∧
    updater.update rpc isDone fuel status = .ok next

/-- A status of the run that starts with `initial`. -/
inductive Reachable (updater : ChainStatusUpdater) (served : Block → Prop) :
    ChainStatus → Prop where
  | initial {rpc : BlockRpc} {status : ChainStatus} :
      rpc.Serves served → updater.initial rpc = .ok status →
      Reachable updater served status
  | update {status next : ChainStatus} :
      Reachable updater served status →
      updater.Step served status next →
      Reachable updater served next

/-- The first status is the good one of a single served block. -/
theorem initial_eq (updater : ChainStatusUpdater) {rpc : BlockRpc}
    (serves : rpc.Serves served) :
    (∃ block tail, served block ∧ tail.blocks = [block] ∧
      updater.initial rpc = .ok (.good tail)) ∨
      ∃ error, updater.initial rpc = .error (.rpc error) := by
  have single (block : Block) :
      Rebuilt.finish (.deque [block]) =
        .ok (.good ⟨[block], by simp, NodeView.Linked.singleton block⟩) := by
    simp only [Rebuilt.finish, Tail.new_of_linked (List.cons_ne_nil block [])
      (NodeView.Linked.singleton block)]
  cases updater with
  | confirmationDepth updater =>
      simp only [initial, ConfirmationDepthChainStatusUpdater.initial]
      cases fetched :
          ConfirmationDepthChainStatusUpdater.getBlockWithConfirmations rpc
            (updater.hardConfirmations + updater.softConfirmations) with
      | error error => exact .inr ⟨error, rfl⟩
      | ok block =>
          have blockServed :=
            ConfirmationDepthChainStatusUpdater.getBlockWithConfirmations_served
              serves fetched
          exact .inl ⟨block, _, blockServed, rfl, single block⟩
  | finalityTag =>
      simp only [initial, FinalityTagChainStatusUpdater.initial]
      cases fetched : rpc.getBlock .finalized with
      | error error => exact .inr ⟨error, rfl⟩
      | ok block =>
          have blockServed := serves.getBlock_served _ _ fetched
          exact .inl ⟨block, _, blockServed, rfl, single block⟩

/-- All that one update can do to a served status. -/
theorem step_cases (tree : Block.view.IsTree served)
    {updater : ChainStatusUpdater} {status next : ChainStatus}
    (statusServed : status.Served served)
    (step : updater.Step served status next) :
    next = .finalityViolated ∨
      ∃ tail newTail : Tail, status = .good tail ∧ next = .good newTail ∧
        (∀ block ∈ newTail.blocks, served block) ∧
        Block.view.Descends newTail.stableTip tail.stableTip := by
  obtain ⟨rpc, isDone, fuel, serves, success⟩ := step
  cases status with
  | finalityViolated =>
      rw [update_finalityViolated] at success
      cases success
      exact .inl rfl
  | good tail =>
      rw [update_good] at success
      have outcome := updater.rebuild_outcome tree serves isDone fuel
        statusServed
      generalize updater.rebuild rpc isDone fuel tail = result
        at outcome success
      cases outcome with
      | violated =>
          cases success
          exact .inl rfl
      | unchanged =>
          cases success
          exact .inr ⟨tail, tail, rfl, rfl, statusServed, .refl _⟩
      | rebuilt deque =>
          simp only [bind, Except.bind, Rebuilt.finish, deque.tailNew]
            at success
          cases success
          right
          refine ⟨tail, _, rfl, rfl, deque.served, ?_⟩
          exact deque.joined.descends _ (List.head_mem deque.nonempty)
      | environment _ => cases success
      | outOfFuel _ => cases success

theorem Reachable.statusServed (tree : Block.view.IsTree served)
    {updater : ChainStatusUpdater} {status : ChainStatus}
    (reachable : updater.Reachable served status) :
    status.Served served := by
  induction reachable with
  | initial serves started =>
      rcases updater.initial_eq serves with
        ⟨block, tail, blockServed, single, isGood⟩ | ⟨error, failed⟩
      · rw [isGood] at started
        cases started
        intro other member
        rw [single, List.mem_singleton] at member
        exact member ▸ blockServed
      · rw [failed] at started
        cases started
  | update _ step induction =>
      rcases step_cases tree induction step with
        violated | ⟨_, newTail, _, isGood, newServed, _⟩
      · subst violated
        trivial
      · subst isGood
        exact newServed

theorem Reachable.of_run {updater : ChainStatusUpdater}
    {first later : ChainStatus} (reachable : updater.Reachable served first)
    (run : Relation.ReflTransGen (updater.Step served) first later) :
    updater.Reachable served later := by
  induction run with
  | refl => exact reachable
  | tail _ step induction => exact .update induction step

/-- Along a run the stable tip only moves to descendants. -/
theorem stableTip_descends_of_run (tree : Block.view.IsTree served)
    {updater : ChainStatusUpdater} {first later : ChainStatus}
    (reachable : updater.Reachable served first)
    (run : Relation.ReflTransGen (updater.Step served) first later)
    {earlierTip laterTip : Block} (earlier : first.stableTip = some earlierTip)
    (last : later.stableTip = some laterTip) :
    Block.view.Descends laterTip earlierTip := by
  induction run generalizing laterTip with
  | refl =>
      rw [earlier] at last
      cases last
      exact .refl _
  | @tail middle later prior step induction =>
      have middleServed := (reachable.of_run prior).statusServed tree
      rcases step_cases tree middleServed step with
        violated | ⟨tail, newTail, wasGood, isGood, _, descends⟩
      · subst violated
        cases last
      · subst wasGood isGood
        cases last
        exact descends.trans (induction rfl)

theorem finalityViolated_of_run {updater : ChainStatusUpdater}
    {later : ChainStatus}
    (run : Relation.ReflTransGen (updater.Step served) .finalityViolated
      later) : later = .finalityViolated := by
  induction run with
  | refl => rfl
  | tail _ step induction =>
      subst induction
      obtain ⟨rpc, isDone, fuel, _, success⟩ := step
      rw [update_finalityViolated] at success
      cases success
      rfl

/-- An update of a served status fails only for reasons outside of it. -/
theorem update_error (tree : Block.view.IsTree served)
    {updater : ChainStatusUpdater} {status : ChainStatus}
    (statusServed : status.Served served) {rpc : BlockRpc}
    (serves : rpc.Serves served) {isDone : Nat → Bool} {fuel : Nat}
    {error : UpdateError}
    (failure : updater.update rpc isDone fuel status = .error error) :
    error.FromEnvironment ∨ error = .outOfFuel ∧ fuel < 2 ^ 64 := by
  cases status with
  | finalityViolated =>
      rw [update_finalityViolated] at failure
      cases failure
  | good tail =>
      rw [update_good] at failure
      have outcome := updater.rebuild_outcome tree serves isDone fuel
        statusServed
      generalize updater.rebuild rpc isDone fuel tail = result
        at outcome failure
      cases outcome with
      | violated => cases failure
      | unchanged => cases failure
      | rebuilt deque =>
          simp only [bind, Except.bind, Rebuilt.finish, deque.tailNew]
            at failure
          cases failure
      | environment fromEnvironment =>
          cases failure
          exact .inl fromEnvironment
      | outOfFuel short =>
          cases failure
          exact .inr ⟨rfl, short⟩

/-- The deque that reaches the last `Tail::new` passes it. -/
theorem rebuild_tailNew (tree : Block.view.IsTree served)
    {updater : ChainStatusUpdater} {tail : Tail}
    (tailServed : ∀ block ∈ tail.blocks, served block) {rpc : BlockRpc}
    (serves : rpc.Serves served) {isDone : Nat → Bool} {fuel : Nat}
    {newTail : List Block}
    (rebuilt : updater.rebuild rpc isDone fuel tail = .ok (.deque newTail)) :
    newTail ≠ [] ∧ ∃ built, Tail.new newTail = .ok built := by
  have outcome := updater.rebuild_outcome tree serves isDone fuel tailServed
  rw [rebuilt] at outcome
  cases outcome with
  | rebuilt deque => exact ⟨deque.nonempty, _, deque.tailNew⟩

/-- What holds between a status and any later one of the same run. -/
structure AppendOnly (updater : ChainStatusUpdater) (served : Block → Prop)
    (first later : ChainStatus) : Prop where
  tail_wellFormed : ∀ tail, later = .good tail →
    tail.blocks ≠ [] ∧
      ∀ index (inside : index + 1 < tail.blocks.length),
        tail.blocks[index].number.toNat + 1 =
            tail.blocks[index + 1].number.toNat ∧
          tail.blocks[index].hash = tail.blocks[index + 1].parentHash
  tailNew_succeeds : ∀ tail rpc isDone fuel newTail,
    later = .good tail → BlockRpc.Serves rpc served →
    updater.rebuild rpc isDone fuel tail = .ok (.deque newTail) →
      newTail ≠ [] ∧ ∃ built, Tail.new newTail = .ok built
  errors_fromEnvironment : ∀ rpc isDone fuel error,
    BlockRpc.Serves rpc served →
    updater.update rpc isDone fuel later = .error error →
      error.FromEnvironment ∨ error = .outOfFuel ∧ fuel < 2 ^ 64
  stableTip_advances : ∀ earlierTip laterTip,
    first.stableTip = some earlierTip → later.stableTip = some laterTip →
      laterTip.Advances earlierTip
  violation_final : first = .finalityViolated → later = .finalityViolated

/-- Finality is append-only along every run of either updater. -/
theorem finality_append_only (tree : Block.view.IsTree served)
    (updater : ChainStatusUpdater) {first later : ChainStatus}
    (reachable : updater.Reachable served first)
    (run : Relation.ReflTransGen (updater.Step served) first later) :
    updater.AppendOnly served first later := by
  have laterServed := (reachable.of_run run).statusServed tree
  constructor
  · intro tail _
    exact ⟨tail.nonempty, tail.consecutive⟩
  · intro tail rpc isDone fuel newTail isGood serves rebuilt
    subst isGood
    exact rebuild_tailNew tree laterServed serves rebuilt
  · intro rpc isDone fuel error serves failure
    exact update_error tree laterServed serves failure
  · intro earlierTip laterTip earlier last
    exact .of_descends
      (stableTip_descends_of_run tree reachable run earlier last)
  · intro violated
    subst violated
    exact finalityViolated_of_run run

end ChainStatusUpdater

/-! ## A run on two blocks -/

/-- The block of a height on a chain whose hashes repeat the height. -/
def chainBlock (number : UInt8) : Block where
  number := number.toUInt64
  hash := SizedBytes.replicate 32 number
  parentHash := SizedBytes.replicate 32 (number - 1)
  timestamp := 0

/-- The two blocks the node below serves. -/
def OnTwoBlocks (block : Block) : Prop :=
  block = chainBlock 0 ∨ block = chainBlock 1

theorem onTwoBlocks_isTree : Block.view.IsTree OnTwoBlocks := by
  constructor
  · intro left right leftOn rightOn same
    rcases leftOn with rfl | rfl <;> rcases rightOn with rfl | rfl
    · rfl
    · exact absurd same (by decide)
    · exact absurd same (by decide)
    · rfl
  · intro parent child parentOn childOn named
    rcases parentOn with rfl | rfl <;> rcases childOn with rfl | rfl
    · exact absurd named (by decide)
    · decide
    · exact absurd named (by decide)
    · exact absurd named (by decide)

/-- A node on two blocks whose latest one is given. -/
def twoBlockRpc (latest : Block) : BlockRpc where
  getBlock
    | .latest => .ok latest
    | .height _ => .ok latest
    | .hash hash =>
        if hash = (chainBlock 0).hash then .ok (chainBlock 0)
        else .error .notFound
    | _ => .error .notFound
  getBlocks := fun _ => .error .notFound

theorem twoBlockRpc_serves {latest : Block} (latestOn : OnTwoBlocks latest) :
    (twoBlockRpc latest).Serves OnTwoBlocks := by
  constructor
  · intro identifier block answered
    cases identifier with
    | height _ =>
        cases answered
        exact latestOn
    | latest =>
        cases answered
        exact latestOn
    | hash hash =>
        simp only [twoBlockRpc] at answered
        split at answered
        · cases answered
          exact .inl rfl
        · cases answered
    | earliest => cases answered
    | safe => cases answered
    | finalized => cases answered
    | pending => cases answered
  · intro hash block answered
    simp only [twoBlockRpc] at answered
    split at answered
    · rename_i same
      cases answered
      exact same.symm
    · cases answered
  · intro identifiers blocks block answered
    cases answered

/-- No confirmations on either side: every tail is a single block. -/
def shallow : ChainStatusUpdater := .confirmationDepth ⟨0, 0⟩

/-- A stable tip that moves from block 0 to block 1. -/
theorem finality_append_only_twoBlocks :
    shallow.AppendOnly OnTwoBlocks (.good (.single (chainBlock 0)))
      (.good (.single (chainBlock 1))) := by
  apply ChainStatusUpdater.finality_append_only onTwoBlocks_isTree
  · exact .initial (twoBlockRpc_serves (.inl rfl)) (by decide)
  · apply Relation.ReflTransGen.single
    refine ⟨twoBlockRpc (chainBlock 1), fun _ => false, 3,
      twoBlockRpc_serves (.inr rfl), ?_⟩
    decide +kernel

end RiskManagement
