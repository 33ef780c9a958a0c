import RiskManagement.Library.Checked
import RiskManagement.Afn.FinalityVerdict

/-!
# What stands behind a finality violation

Nothing is assumed of the node here, not even that a block asked for by its
hash has that hash.  An update that reports a violation has all the same come
across a block that contradicts one which was settled before.
-/

namespace RiskManagement

/-- What the node answers with is recorded, and apart from it what it calls
finalized. -/
structure BlockRpc.Records (rpc : BlockRpc)
    (Fetched Finalized : Block → Prop) : Prop where
  block : ∀ identifier block,
    rpc.getBlock identifier = .ok block → Fetched block
  blocks : ∀ identifiers results block,
    rpc.getBlocks identifiers = .ok results → .ok block ∈ results →
      Fetched block
  finalized : ∀ block, rpc.getBlock .finalized = .ok block → Finalized block
  finalizedFirst : ∀ identifiers results block,
    rpc.getBlocks (.finalized :: identifiers) = .ok results →
      results.head? = some (.ok block) → Finalized block

/-- A fetched block contradicts a settled one. -/
def FinalityConflict (Fetched Settled : Block → Prop) : Prop :=
  ∃ settled other, Settled settled ∧ Fetched other ∧
    other.number = settled.number ∧ other.hash ≠ settled.hash

theorem FinalityConflict.mono {Fetched Settled More : Block → Prop}
    (conflict : FinalityConflict Fetched Settled)
    (grown : ∀ block, Settled block → More block) :
    FinalityConflict Fetched More := by
  obtain ⟨settled, other, isSettled, fetched, sameNumber, different⟩ := conflict
  exact ⟨settled, other, grown settled isSettled, fetched, sameNumber,
    different⟩

section Walk

variable {parentOf : Bytes32 → Except RpcError Block}
  {conflicts : Block → Bool} {tail : Tail} {Fetched Settled : Block → Prop}

/-- A walk reports a violation where it meets a contradiction. -/
theorem Walks.conflict_of_violated {head : Block} {rest newTail : List Block}
    (walk : Walks parentOf conflicts tail head rest
      (.finalityViolated newTail))
    (parents : ∀ hash block, parentOf hash = .ok block → Fetched block)
    (settled : ∀ block, conflicts block = true →
      ∃ finalized, Settled finalized ∧ block.number = finalized.number ∧
        block.hash ≠ finalized.hash)
    (stable : Settled tail.stableTip) (fetched : Fetched head) :
    FinalityConflict Fetched Settled := by
  generalize isViolated : WalkBack.finalityViolated newTail = outcome at walk
  induction walk with
  | joined _ => cases isViolated
  | @stable head rest outside sameNumber =>
      refine ⟨tail.stableTip, head, stable, fetched, sameNumber, ?_⟩
      intro sameHash
      have contained : tail.contains head = true :=
        Tail.contains_iff.mpr
          ⟨_, tail.stableTip_mem, sameNumber.symm, sameHash.symm⟩
      rw [outside] at contained
      cases contained
  | @conflict head rest _ _ conflict =>
      obtain ⟨finalized, isSettled, sameNumber, different⟩ :=
        settled head conflict
      exact ⟨finalized, head, isSettled, fetched, sameNumber, different⟩
  | rewound _ _ _ => cases isViolated
  | push _ _ _ answered _ induction =>
      exact induction (parents _ _ answered) isViolated

theorem violated_of_rebuildFrom
    {afterJoin : Tail → Block → List Block → Option (List Block)}
    {isDone : Nat → Bool} {fuel : Nat} {start : Block}
    (updated : (rebuildFrom parentOf conflicts afterJoin isDone fuel tail
      start >>= Rebuilt.finish) = .ok .finalityViolated) :
    ∃ newTail, Walks parentOf conflicts tail start []
      (.finalityViolated newTail) := by
  obtain ⟨rebuilt, isRebuilt, finished⟩ := Checked.bind_eq_ok_iff.mp updated
  rw [rebuildFrom] at isRebuilt
  obtain ⟨outcome, walked, isRebuilt⟩ := Checked.bind_eq_ok_iff.mp isRebuilt
  cases outcome with
  | finalityViolated newTail => exact ⟨newTail, walkBack_walks walked⟩
  | rewound newTail =>
      cases isRebuilt
      cases finished
  | joined front rest =>
      simp only at isRebuilt
      split at isRebuilt
      · cases isRebuilt
      · cases isRebuilt
        rw [Rebuilt.finish] at finished
        split at finished
        · cases finished
        · cases finished

end Walk

theorem liftRpc_eq_ok {α : Type} {result : Except RpcError α} {value : α}
    (lifted : liftRpc result = .ok value) : result = .ok value := by
  cases result with
  | error error => cases lifted
  | ok found =>
      cases lifted
      rfl

section Updates

variable {rpc : BlockRpc} {Fetched Finalized : Block → Prop}

theorem BlockRpc.Records.getBlockWithConfirmations
    (records : rpc.Records Fetched Finalized) {confirmations : Nat}
    {block : Block}
    (answered : ConfirmationDepthChainStatusUpdater.getBlockWithConfirmations
      rpc confirmations = .ok block) : Fetched block := by
  rw [ConfirmationDepthChainStatusUpdater.getBlockWithConfirmations]
    at answered
  split at answered
  · cases answered
  · exact records.block _ _ answered

theorem BlockRpc.Records.getBlocksThatMustExist
    (records : rpc.Records Fetched Finalized)
    {second : BlockIdentifier} {firstBlock secondBlock : Block}
    (answered : FinalityTagChainStatusUpdater.getBlocksThatMustExist rpc
      .finalized second = .ok (firstBlock, secondBlock)) :
    Finalized firstBlock ∧ Fetched firstBlock ∧ Fetched secondBlock := by
  rw [FinalityTagChainStatusUpdater.getBlocksThatMustExist] at answered
  obtain ⟨results, isResults, collected⟩ :=
    Checked.bind_eq_ok_iff.mp answered
  obtain ⟨blocks, isBlocks, taken⟩ := Checked.bind_eq_ok_iff.mp collected
  have isAnswer := liftRpc_eq_ok isResults
  have same := collect_eq_ok (liftRpc_eq_ok isBlocks)
  subst same
  split at taken
  · cases taken
    refine ⟨?_, ?_, ?_⟩
    · exact records.finalizedFirst _ _ _ isAnswer rfl
    · exact records.blocks _ _ _ isAnswer (by simp)
    · exact records.blocks _ _ _ isAnswer (by simp)
  · cases taken

theorem BlockRpc.Records.cacheOrEmpty
    (records : rpc.Records Fetched Finalized) (first last : UInt64) :
    ∀ block ∈ FinalityTagChainStatusUpdater.cacheOrEmpty rpc first last,
      Fetched block := by
  intro block member
  rw [FinalityTagChainStatusUpdater.cacheOrEmpty,
    FinalityTagChainStatusUpdater.blockCache] at member
  split at member
  · rename_i cache built
    split at built
    · cases built
      cases member
    · split at built
      · cases built
      · rename_i results answered
        cases built
        obtain ⟨result, isResult, isBlock⟩ := List.mem_filterMap.mp member
        cases result with
        | error error => cases isBlock
        | ok value =>
            cases isBlock
            exact records.blocks _ _ _ answered isResult
  · cases member

/-- The finalized block of an update was called finalized, and the latest one
was fetched. -/
theorem BlockRpc.Records.finalizedAndLatest
    (records : rpc.Records Fetched Finalized) {finalized latest : Block}
    (answered : FinalityTagChainStatusUpdater.finalizedAndLatest rpc =
      .ok (finalized, latest)) : Finalized finalized ∧ Fetched latest := by
  rw [FinalityTagChainStatusUpdater.finalizedAndLatest] at answered
  obtain ⟨⟨rpcFinalized, rpcLatest⟩, gotten, answered⟩ :=
    Checked.bind_eq_ok_iff.mp answered
  have tagged : Finalized rpcFinalized ∧ Fetched rpcFinalized ∧
      Fetched rpcLatest :=
    records.getBlocksThatMustExist gotten
  simp only at answered
  split at answered
  · cases answered
    exact ⟨tagged.1, tagged.2.2⟩
  · cases answered
    exact ⟨tagged.1, tagged.2.1⟩

theorem BlockRpc.Records.parentFromCache
    (records : rpc.Records Fetched Finalized) (first last : UInt64)
    {hash : Bytes32} {block : Block}
    (answered : FinalityTagChainStatusUpdater.parentFromCache
      (FinalityTagChainStatusUpdater.cacheOrEmpty rpc first last) rpc hash =
        .ok block) : Fetched block := by
  rw [FinalityTagChainStatusUpdater.parentFromCache] at answered
  split at answered
  · rename_i cached hit
    cases answered
    rw [FinalityTagChainStatusUpdater.cacheGet] at hit
    have member := List.mem_reverse.mp (List.mem_of_find?_eq_some hit)
    exact records.cacheOrEmpty first last block member
  · exact records.block _ _ answered

namespace ChainStatusUpdater

/-- An update that reports a violation has fetched a block that contradicts
the stable tip or a block that the node calls finalized. -/
theorem conflict_of_violated (records : rpc.Records Fetched Finalized)
    {updater : ChainStatusUpdater} {isDone : Nat → Bool} {fuel : Nat}
    {tail : Tail}
    (updated : updater.update rpc isDone fuel (.good tail) =
      .ok .finalityViolated) :
    FinalityConflict Fetched
      (fun block => block = tail.stableTip ∨ Finalized block) := by
  rw [update_good] at updated
  cases updater with
  | confirmationDepth updater =>
      simp only [rebuild, ConfirmationDepthChainStatusUpdater.rebuild,
        bind_assoc] at updated
      obtain ⟨start, started, updated⟩ := Checked.bind_eq_ok_iff.mp updated
      obtain ⟨newTail, walk⟩ := violated_of_rebuildFrom updated
      apply walk.conflict_of_violated
      · exact fun _ _ answered => records.block _ _ answered
      · simp
      · exact .inl rfl
      · exact records.getBlockWithConfirmations (liftRpc_eq_ok started)
  | finalityTag =>
      simp only [rebuild, FinalityTagChainStatusUpdater.rebuild,
        bind_assoc] at updated
      obtain ⟨⟨finalized, latest⟩, tagged, updated⟩ :=
        Checked.bind_eq_ok_iff.mp updated
      obtain ⟨isFinalized, fetched⟩ := records.finalizedAndLatest tagged
      obtain ⟨newTail, walk⟩ := violated_of_rebuildFrom updated
      apply walk.conflict_of_violated
      · exact fun _ _ answered => records.parentFromCache _ _ answered
      · intro block conflict
        refine ⟨finalized, .inr isFinalized, ?_⟩
        simpa [FinalityTagChainStatusUpdater.conflictsWith] using conflict
      · exact .inl rfl
      · exact fetched

end ChainStatusUpdater
end Updates
end RiskManagement
