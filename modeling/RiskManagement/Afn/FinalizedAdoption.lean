import RiskManagement.Afn.FinalityVerdict

/-!
# Which block an update by finality tag adopts

The walk back checks the blocks it passes against the finalized block, but it
stops at the first block the old tail contains, and blocks the old tail adds
below that one are not checked.  For any answers of the node this module says
when the new stable tip is the finalized block all the same.
-/

namespace RiskManagement

/-- The walk back from `start` has pushed `rest`, saw no shutdown on the way
and looks at `head` next. -/
inductive WalksTo (parentOf : Bytes32 → Except RpcError Block)
    (conflicts : Block → Bool) (isDone : Nat → Bool) (tail : Tail)
    (start : Block) : Block → List Block → Prop where
  | start : WalksTo parentOf conflicts isDone tail start start []
  | push {head parent : Block} {rest : List Block} :
      WalksTo parentOf conflicts isDone tail start head rest →
      isDone rest.length = false →
      tail.contains head = false →
      conflicts head = false →
      tail.stableTip.number.toNat < head.number.toNat →
      parentOf head.parentHash = .ok parent →
      WalksTo parentOf conflicts isDone tail start parent (head :: rest)

section Walking

variable {parentOf : Bytes32 → Except RpcError Block}
  {conflicts : Block → Bool} {isDone : Nat → Bool} {tail : Tail}
  {start head : Block} {rest : List Block}

theorem WalksTo.noConflict
    (walks : WalksTo parentOf conflicts isDone tail start head rest) :
    ∀ block ∈ rest, conflicts block = false := by
  induction walks with
  | start =>
      intro block member
      cases member
  | push _ _ _ noConflict _ _ ih =>
      intro block member
      rcases List.mem_cons.mp member with same | earlier
      · rw [same]
        exact noConflict
      · exact ih block earlier

/-- The loop passes through every block the walk reaches. -/
theorem WalksTo.walkBack_eq
    (walks : WalksTo parentOf conflicts isDone tail start head rest)
    (fuel : Nat) :
    walkBack parentOf conflicts isDone tail (rest.length + fuel) start [] =
      walkBack parentOf conflicts isDone tail fuel head rest := by
  induction walks generalizing fuel with
  | start => rw [List.length_nil, Nat.zero_add]
  | @push head parent rest _ notDone outside noConflict above fetched ih =>
      have enough :
          (head :: rest).length + fuel = rest.length + (fuel + 1) := by
        rw [List.length_cons]
        omega
      have different : head.number ≠ tail.stableTip.number := by
        intro same
        rw [same] at above
        exact Nat.lt_irrefl _ above
      have notBelow : ¬ head.number < tail.stableTip.number := by
        intro below
        exact Nat.lt_asymm above (UInt64.lt_iff_toNat_lt.mp below)
      rw [enough, ih, walkBack]
      simp only [notDone, outside, noConflict, different, notBelow, fetched,
        Bool.false_eq_true, if_false]

theorem walksTo_of_walkBack {fuel : Nat} {front : Block} {pushed : List Block}
    (walks : WalksTo parentOf conflicts isDone tail start head rest)
    (ended : walkBack parentOf conflicts isDone tail fuel head rest =
      .ok (.joined front pushed)) :
    WalksTo parentOf conflicts isDone tail start front pushed ∧
      isDone pushed.length = false ∧ tail.contains front = true := by
  induction fuel generalizing head rest with
  | zero => cases ended
  | succ fuel ih =>
      rw [walkBack] at ended
      by_cases done : isDone rest.length = true
      · simp [done] at ended
      · rw [if_neg done] at ended
        by_cases contained : tail.contains head = true
        · rw [if_pos contained] at ended
          cases ended
          exact ⟨walks, Bool.eq_false_iff.mpr done, contained⟩
        · rw [if_neg contained] at ended
          split at ended
          · cases ended
          · rename_i different
            split at ended
            · cases ended
            · rename_i noConflict
              split at ended
              · cases ended
              · rename_i notBelow
                split at ended
                · cases ended
                · rename_i parent fetched
                  have above : tail.stableTip.number.toNat <
                      head.number.toNat :=
                    Word64.toNat_lt_of_ne_of_not_lt different notBelow
                  exact ih (walks.push (Bool.eq_false_iff.mpr done)
                    (Bool.eq_false_iff.mpr contained)
                    (Bool.eq_false_iff.mpr noConflict) above fetched) ended

end Walking

/-! ### The two trimming loops -/

theorem popFrontBelow_eq_some_iff {number : UInt64} {deque kept : List Block} :
    popFrontBelow number deque = some kept ↔
      ∃ below block above, deque = below ++ block :: above ∧
        kept = block :: above ∧ (∀ lower ∈ below, lower.number < number) ∧
        number ≤ block.number := by
  induction deque with
  | nil =>
      constructor
      · intro popped
        cases popped
      · intro cut
        obtain ⟨below, block, above, split, _⟩ := cut
        exact absurd split.symm (List.append_ne_nil_of_right_ne_nil below
          (List.cons_ne_nil block above))
  | cons front rest ih =>
      rw [popFrontBelow]
      by_cases lower : front.number < number
      · rw [if_pos lower, ih]
        constructor
        · intro cut
          obtain ⟨below, block, above, split, isKept, allLower, notBelow⟩ := cut
          refine ⟨front :: below, block, above, ?_, isKept, ?_, notBelow⟩
          · rw [split, List.cons_append]
          · intro other member
            rcases List.mem_cons.mp member with same | later
            · rw [same]
              exact lower
            · exact allLower other later
        · intro cut
          obtain ⟨below, block, above, split, isKept, allLower, notBelow⟩ := cut
          cases below with
          | nil =>
              cases split
              exact absurd lower (UInt64.not_lt.mpr notBelow)
          | cons first below =>
              cases split
              refine ⟨below, block, above, rfl, isKept, ?_, notBelow⟩
              intro other member
              exact allLower other (List.mem_cons_of_mem _ member)
      · rw [if_neg lower]
        constructor
        · intro isKept
          cases isKept
          exact ⟨[], front, rest, rfl, rfl, by simp, UInt64.not_lt.mp lower⟩
        · intro cut
          obtain ⟨below, block, above, split, isKept, allLower, _⟩ := cut
          cases below with
          | nil =>
              cases split
              rw [isKept]
          | cons first below =>
              cases split
              exact absurd (allLower front List.mem_cons_self) lower

theorem Tail.eq_of_number_eq {tail : Tail} {left right : Block}
    (leftMember : left ∈ tail.blocks) (rightMember : right ∈ tail.blocks)
    (same : left.number = right.number) : left = right := by
  have leftFound := Tail.blockByNumber_eq_some_iff.mpr ⟨leftMember, same⟩
  have rightFound := Tail.blockByNumber_eq_some_iff.mpr ⟨rightMember, rfl⟩
  rw [leftFound] at rightFound
  exact Option.some.inj rightFound

theorem Tail.contains_of_mem {tail : Tail} {block : Block}
    (member : block ∈ tail.blocks) : tail.contains block = true :=
  Tail.contains_iff.mpr ⟨block, member, rfl, rfl⟩

/-- Below a contained block and not below the stable tip the tail has every
predecessor. -/
theorem Tail.exists_predecessor {tail : Tail} {front : Block}
    (contained : tail.contains front = true)
    (above : tail.stableTip.number.toNat < front.number.toNat) :
    ∃ predecessor, tail.predecessor front = some predecessor := by
  obtain ⟨block, member, number, _⟩ := Tail.contains_iff.mp contained
  obtain ⟨index, inside, isBlock⟩ := List.getElem_of_mem member
  have height := tail.number_getElem index inside
  rw [isBlock, number] at height
  refine ⟨tail.blocks[index - 1], Tail.predecessor_eq_some_iff.mpr
    ⟨List.getElem_mem _, ?_⟩⟩
  rw [tail.number_getElem]
  omega

/-- Extended down to the finalized number, the deque starts with a block of
that number whose hash is the old tail's. -/
theorem extendFromTail_front {finalized : Block} {tail : Tail}
    (notBelow : tail.stableTip.number ≤ finalized.number) {front : Block}
    (rest : List Block) (contained : tail.contains front = true)
    (reached : finalized.number ≤ front.number) :
    ∃ first above, extendFromTail
        (fun front _ => decide (finalized.number < front.number))
        tail front rest = first :: above ∧
      first.number = finalized.number ∧ tail.contains first = true := by
  fun_induction extendFromTail
      (fun front _ => decide (finalized.number < front.number))
      tail front rest with
  | case1 front rest wanted predecessor found ih =>
      obtain ⟨member, consecutive⟩ := Tail.predecessor_eq_some_iff.mp found
      apply ih (Tail.contains_of_mem member)
      have higher := UInt64.lt_iff_toNat_lt.mp (of_decide_eq_true wanted)
      rw [UInt64.le_iff_toNat_le]
      omega
  | case2 front rest wanted missing =>
      have higher := UInt64.lt_iff_toNat_lt.mp (of_decide_eq_true wanted)
      have lower := UInt64.le_iff_toNat_le.mp notBelow
      obtain ⟨predecessor, found⟩ := Tail.exists_predecessor contained
        (Nat.lt_of_le_of_lt lower higher)
      rw [found] at missing
      cases missing
  | case3 front rest notWanted =>
      refine ⟨front, rest, rfl, ?_, contained⟩
      rw [decide_eq_true_eq, UInt64.not_lt] at notWanted
      exact UInt64.le_antisymm notWanted reached

/-- A deque whose front is not above the finalized block is not extended. -/
theorem extendFromTail_of_not_above {finalized : Block} {tail : Tail}
    {front : Block} {rest : List Block}
    (notAbove : ¬ finalized.number < front.number) :
    extendFromTail (fun front _ => decide (finalized.number < front.number))
      tail front rest = front :: rest := by
  rw [extendFromTail, if_neg]
  rw [decide_eq_true_eq]
  exact notAbove

theorem Rebuilt.finish_deque_eq_ok {newTail : List Block} {status : ChainStatus}
    (finished : Rebuilt.finish (.deque newTail) = .ok status) :
    Block.view.Linked newTail ∧
      ∃ tail, status = .good tail ∧ tail.blocks = newTail := by
  rw [finish, Tail.new] at finished
  split at finished
  · cases finished
  · rename_i tail built
    cases finished
    split at built
    · cases built
    · split at built
      · cases built
      · rename_i checked
        cases built
        exact ⟨checkLinks_none_eq_ok_iff.mp checked, _, rfl, rfl⟩

/-! ### The new tail and the finalized block -/

namespace FinalityTagChainStatusUpdater

section Adoption

variable (rpc : BlockRpc) (isDone : Nat → Bool) (tail : Tail)
  (finalized latest : Block)

/-- The walk of the update starts from the latest block and takes parents from
the by-height cache first. -/
def walkPlan : WalkPlan where
  start := latest
  parentOf := parentFromCache
    (cacheOrEmpty rpc tail.tip.number latest.number) rpc
  conflicts := conflictsWith finalized
  afterJoin := afterJoin finalized

/-- The update's walk gets down to this block. -/
def UpdateWalksTo : Block → List Block → Prop :=
  WalksTo (walkPlan rpc tail finalized latest).parentOf
    (walkPlan rpc tail finalized latest).conflicts isDone tail latest

/-- The walk meets the old tail at `front`, after it has pushed `rest`. -/
structure JoinsAt (front : Block) (rest : List Block) : Prop where
  walks : UpdateWalksTo rpc isDone tail finalized latest front rest
  notDone : isDone rest.length = false
  contained : tail.contains front = true

/-- The blocks the update makes its new tail of: those it walks over, and
those of the old tail below the block where it joins. -/
inductive NewTailBlock : Block → Prop where
  | walked {block : Block} {rest : List Block} :
      UpdateWalksTo rpc isDone tail finalized latest block rest →
      isDone rest.length = false →
      NewTailBlock block
  | old {front block : Block} {rest : List Block} :
      JoinsAt rpc isDone tail finalized latest front rest →
      block ∈ tail.blocks →
      block.number < front.number →
      NewTailBlock block

/-- A new tail starts with the finalized block, and a block that conflicts
with it is answered with a violation. -/
structure AdoptsOnlyFinalized : Prop where
  adopted : ∀ fuel newTail,
    update rpc isDone fuel (.good tail) = .ok (.good newTail) →
      newTail ≠ tail →
        newTail.stableTip.number = finalized.number ∧
          newTail.stableTip.hash = finalized.hash
  violated : ∀ block,
    NewTailBlock rpc isDone tail finalized latest block →
      block.number = finalized.number → block.hash ≠ finalized.hash →
        ∃ needed, ∀ fuel, needed ≤ fuel →
          update rpc isDone fuel (.good tail) = .ok .finalityViolated

/-- The walk joins at or above the height of the finalized block, where the
old tail has another block. -/
def JoinsAboveConflict : Prop :=
  ∃ front rest, JoinsAt rpc isDone tail finalized latest front rest ∧
    finalized.number ≤ front.number ∧
    ∃ block ∈ tail.blocks, block.number = finalized.number ∧
      block.hash ≠ finalized.hash

/-- The walk joins below the finalized block, and the first block it passed
that is not below it is above it; from that block on all is linked. -/
def SkipsFinalized : Prop :=
  ∃ front below block above,
    JoinsAt rpc isDone tail finalized latest front
      (below ++ block :: above) ∧
    (∀ lower ∈ front :: below, lower.number < finalized.number) ∧
    finalized.number < block.number ∧
    Block.view.Linked (block :: above)

end Adoption

section Exact

variable {rpc : BlockRpc} {isDone : Nat → Bool} {tail : Tail}
  {finalized latest : Block}

theorem plan_eq (answered : finalizedAndLatest rpc = .ok (finalized, latest)) :
    ChainStatusUpdater.plan rpc tail .finalityTag =
      .ok (walkPlan rpc tail finalized latest) := by
  simp only [ChainStatusUpdater.plan, answered]
  rfl

theorem update_of_walk
    (answered : finalizedAndLatest rpc = .ok (finalized, latest))
    {fuel : Nat} {outcome : WalkBack}
    (ended : (walkPlan rpc tail finalized latest).walk isDone fuel tail =
      .ok outcome) :
    update rpc isDone fuel (.good tail) =
      (walkPlan rpc tail finalized latest).conclude tail outcome :=
  ChainStatusUpdater.update_of_walk (plan_eq answered) ended

theorem update_of_walk_error
    (answered : finalizedAndLatest rpc = .ok (finalized, latest))
    {fuel : Nat} {error : UpdateError}
    (ended : (walkPlan rpc tail finalized latest).walk isDone fuel tail =
      .error error) :
    update rpc isDone fuel (.good tail) = .error error := by
  have planned := ChainStatusUpdater.rebuild_eq_plan .finalityTag rpc isDone
    fuel tail
  rw [plan_eq answered] at planned
  rw [WalkPlan.walk] at ended
  simp only [Except.bind, rebuildFrom, ended, bind] at planned
  have failed : rebuild rpc isDone fuel tail = .error error := planned
  rw [update, failed]
  rfl

/-- Where the walk joins, fuel beyond it makes the update its two loops. -/
theorem JoinsAt.update_eq
    (answered : finalizedAndLatest rpc = .ok (finalized, latest))
    {front : Block} {rest : List Block}
    (joins : JoinsAt rpc isDone tail finalized latest front rest)
    (fuel : Nat) :
    update rpc isDone (rest.length + (fuel + 1)) (.good tail) =
      match afterJoin finalized tail front rest with
      | none => .error .unwrapNone
      | some newTail => Rebuilt.finish (.deque newTail) := by
  have ended : (walkPlan rpc tail finalized latest).walk isDone
      (rest.length + (fuel + 1)) tail = .ok (.joined front rest) := by
    rw [WalkPlan.walk]
    apply (joins.walks.walkBack_eq (fuel + 1)).trans
    rw [walkBack]
    simp only [joins.notDone, joins.contained, Bool.false_eq_true, if_false,
      if_true]
  exact update_of_walk answered ended

/-- An update that returns a new tail has joined the old one. -/
theorem joinsAt_of_update
    (answered : finalizedAndLatest rpc = .ok (finalized, latest))
    {fuel : Nat} {newTail : Tail}
    (updated : update rpc isDone fuel (.good tail) = .ok (.good newTail))
    (isNew : newTail ≠ tail) :
    ∃ front rest, JoinsAt rpc isDone tail finalized latest front rest ∧
      afterJoin finalized tail front rest = some newTail.blocks := by
  cases ended : (walkPlan rpc tail finalized latest).walk isDone fuel tail with
  | error error =>
      rw [update_of_walk_error answered ended] at updated
      cases updated
  | ok outcome =>
      rw [update_of_walk answered ended] at updated
      cases outcome with
      | finalityViolated _ => cases updated
      | rewound _ =>
          cases updated
          exact absurd rfl isNew
      | joined front rest =>
          obtain ⟨walks, notDone, contained⟩ := walksTo_of_walkBack .start ended
          refine ⟨front, rest, ⟨walks, notDone, contained⟩, ?_⟩
          cases kept : afterJoin finalized tail front rest with
          | none => simp [WalkPlan.conclude, walkPlan, kept] at updated
          | some deque =>
              simp only [WalkPlan.conclude, walkPlan, kept] at updated
              obtain ⟨_, built, same, blocks⟩ :=
                Rebuilt.finish_deque_eq_ok updated
              cases same
              rw [blocks]

/-- Where the walk joins the update never reports a violation. -/
theorem JoinsAt.update_ne_finalityViolated
    (answered : finalizedAndLatest rpc = .ok (finalized, latest))
    {front : Block} {rest : List Block}
    (joins : JoinsAt rpc isDone tail finalized latest front rest)
    (fuel : Nat) :
    update rpc isDone (rest.length + (fuel + 1)) (.good tail) ≠
      .ok .finalityViolated := by
  rw [joins.update_eq answered]
  cases afterJoin finalized tail front rest with
  | none =>
      intro violated
      cases violated
  | some deque =>
      intro violated
      obtain ⟨_, _, isGood, _⟩ := Rebuilt.finish_deque_eq_ok violated
      cases isGood

/-- The first block of a deque cut down to the finalized height, where the
walk joined at or above it. -/
theorem JoinsAt.afterJoin_of_not_below
    (notBelow : tail.stableTip.number ≤ finalized.number)
    {front : Block} {rest : List Block}
    (joins : JoinsAt rpc isDone tail finalized latest front rest)
    (reached : finalized.number ≤ front.number) :
    ∃ first above, afterJoin finalized tail front rest =
        some (first :: above) ∧
      first.number = finalized.number ∧ tail.contains first = true := by
  obtain ⟨first, above, extended, number, contained⟩ :=
    extendFromTail_front notBelow rest joins.contained reached
  refine ⟨first, above, ?_, number, contained⟩
  rw [afterJoin, extended, popFrontBelow, number, if_neg (UInt64.lt_irrefl _)]

/-- The same where the walk joined below it: the blocks it passed are cut. -/
theorem afterJoin_of_below {front : Block} {rest newTail : List Block}
    (lower : front.number < finalized.number)
    (kept : afterJoin finalized tail front rest = some newTail) :
    ∃ below block above, rest = below ++ block :: above ∧
      newTail = block :: above ∧
      (∀ passed ∈ front :: below, passed.number < finalized.number) ∧
      finalized.number ≤ block.number := by
  have notAbove : ¬ finalized.number < front.number :=
    fun higher => UInt64.lt_asymm lower higher
  rw [afterJoin, extendFromTail_of_not_above notAbove] at kept
  obtain ⟨below, block, above, split, isKept, allLower, notBelow⟩ :=
    popFrontBelow_eq_some_iff.mp kept
  cases below with
  | nil =>
      cases split
      exact absurd lower (UInt64.not_lt.mpr notBelow)
  | cons first below =>
      cases split
      exact ⟨below, block, above, rfl, isKept, allLower, notBelow⟩

theorem conflictsWith_eq_true_iff {head : Block} :
    conflictsWith finalized head = true ↔
      head.number = finalized.number ∧ head.hash ≠ finalized.hash := by
  simp [conflictsWith]

/-- A conflicting block that the old tail does not contain ends the walk. -/
theorem update_of_conflict
    (answered : finalizedAndLatest rpc = .ok (finalized, latest))
    {block : Block} {rest : List Block}
    (walks : UpdateWalksTo rpc isDone tail finalized latest block rest)
    (notDone : isDone rest.length = false)
    (outside : tail.contains block = false)
    (sameNumber : block.number = finalized.number)
    (otherHash : block.hash ≠ finalized.hash) (fuel : Nat) :
    update rpc isDone (rest.length + (fuel + 1)) (.good tail) =
      .ok .finalityViolated := by
  have conflict : conflictsWith finalized block = true :=
    conflictsWith_eq_true_iff.mpr ⟨sameNumber, otherHash⟩
  have ended : (walkPlan rpc tail finalized latest).walk isDone
      (rest.length + (fuel + 1)) tail =
        .ok (.finalityViolated (block :: rest)) := by
    rw [WalkPlan.walk]
    apply (walks.walkBack_eq (fuel + 1)).trans
    rw [walkBack]
    simp only [notDone, outside, Bool.false_eq_true, if_false, walkPlan,
      conflict, if_true, ite_self]
  rw [update_of_walk answered ended]
  rfl

/-- A contained block of the finalized height has the hash of the old tail's
block there. -/
theorem not_conflicting_of_contains {block : Block}
    (agrees : ∀ other ∈ tail.blocks, other.number = finalized.number →
      other.hash = finalized.hash)
    (contained : tail.contains block = true)
    (sameNumber : block.number = finalized.number) :
    block.hash = finalized.hash := by
  obtain ⟨other, member, number, hash⟩ := Tail.contains_iff.mp contained
  rw [← hash]
  exact agrees other member (number.trans sameNumber)

/-- Where the walk joins at or above the finalized height the old tail has no
other block there. -/
theorem JoinsAt.agrees {front : Block} {rest : List Block}
    (free : ¬ JoinsAboveConflict rpc isDone tail finalized latest)
    (joins : JoinsAt rpc isDone tail finalized latest front rest)
    (reached : finalized.number ≤ front.number) :
    ∀ other ∈ tail.blocks, other.number = finalized.number →
      other.hash = finalized.hash := by
  intro other member number
  by_contra different
  exact free ⟨front, rest, joins, reached, other, member, number, different⟩

theorem adopted_of_free
    (answered : finalizedAndLatest rpc = .ok (finalized, latest))
    (notBelow : tail.stableTip.number ≤ finalized.number)
    (conflictFree : ¬ JoinsAboveConflict rpc isDone tail finalized latest)
    (skipFree : ¬ SkipsFinalized rpc isDone tail finalized latest)
    {fuel : Nat} {newTail : Tail}
    (updated : update rpc isDone fuel (.good tail) = .ok (.good newTail))
    (isNew : newTail ≠ tail) :
    newTail.stableTip.number = finalized.number ∧
      newTail.stableTip.hash = finalized.hash := by
  obtain ⟨front, rest, joins, kept⟩ := joinsAt_of_update answered updated isNew
  have stableTip : ∀ first above, newTail.blocks = first :: above →
      newTail.stableTip = first := by
    intro first above blocks
    simp only [Tail.stableTip, blocks, List.head_cons]
  rcases UInt64.lt_or_le front.number finalized.number with lower | reached
  · obtain ⟨below, block, above, split, blocks, allLower, least⟩ :=
      afterJoin_of_below lower kept
    have linked := newTail.linked
    rw [blocks] at linked
    rw [split] at joins
    have same : block.number = finalized.number := by
      rcases UInt64.lt_or_eq_of_le least with higher | same
      · exact absurd ⟨front, below, block, above, joins, allLower, higher,
          linked⟩ skipFree
      · exact same.symm
    rw [stableTip block above blocks]
    refine ⟨same, ?_⟩
    -- the walk has passed this block, so it was checked
    have checked : conflictsWith finalized block = false :=
      joins.walks.noConflict block (by simp)
    by_contra different
    rw [conflictsWith_eq_true_iff.mpr ⟨same, different⟩] at checked
    cases checked
  · obtain ⟨first, above, cut, number, contained⟩ :=
      joins.afterJoin_of_not_below notBelow reached
    rw [cut] at kept
    rw [stableTip first above (Option.some.inj kept).symm]
    exact ⟨number, not_conflicting_of_contains
      (joins.agrees conflictFree reached) contained number⟩

theorem violated_of_free
    (answered : finalizedAndLatest rpc = .ok (finalized, latest))
    (conflictFree : ¬ JoinsAboveConflict rpc isDone tail finalized latest)
    {block : Block}
    (built : NewTailBlock rpc isDone tail finalized latest block)
    (sameNumber : block.number = finalized.number)
    (otherHash : block.hash ≠ finalized.hash) :
    ∃ needed, ∀ fuel, needed ≤ fuel →
      update rpc isDone fuel (.good tail) = .ok .finalityViolated := by
  cases built with
  | @walked _ rest walks notDone =>
      have outside : tail.contains block = false := by
        rw [Bool.eq_false_iff]
        intro contained
        have joins : JoinsAt rpc isDone tail finalized latest block rest :=
          ⟨walks, notDone, contained⟩
        apply otherHash
        apply not_conflicting_of_contains _ contained sameNumber
        apply joins.agrees conflictFree
        rw [sameNumber]
        exact UInt64.le_refl _
      refine ⟨rest.length + 1, ?_⟩
      intro fuel enough
      obtain ⟨more, rfl⟩ := Nat.exists_eq_add_of_le enough
      rw [Nat.add_assoc, Nat.add_comm 1 more]
      exact update_of_conflict answered walks notDone outside sameNumber
        otherHash more
  | @old front _ rest joins member lower =>
      rw [sameNumber] at lower
      exact absurd (joins.agrees conflictFree (UInt64.le_of_lt lower) block
        member sameNumber) otherHash

theorem not_joinsAboveConflict
    (answered : finalizedAndLatest rpc = .ok (finalized, latest))
    (adopts : AdoptsOnlyFinalized rpc isDone tail finalized latest) :
    ¬ JoinsAboveConflict rpc isDone tail finalized latest := by
  intro ⟨front, rest, joins, reached, block, member, number, different⟩
  have built : NewTailBlock rpc isDone tail finalized latest block ∨
      NewTailBlock rpc isDone tail finalized latest front ∧
        front.number = finalized.number ∧ front.hash ≠ finalized.hash := by
    rcases UInt64.lt_or_eq_of_le reached with higher | same
    · left
      apply NewTailBlock.old joins member
      rw [number]
      exact higher
    · right
      refine ⟨.walked joins.walks joins.notDone, same.symm, ?_⟩
      obtain ⟨other, otherMember, otherNumber, hash⟩ :=
        Tail.contains_iff.mp joins.contained
      have sameBlock : other = block := by
        apply Tail.eq_of_number_eq otherMember member
        rw [otherNumber, number, same]
      rw [← hash, sameBlock]
      exact different
  obtain ⟨needed, violated⟩ : ∃ needed, ∀ fuel, needed ≤ fuel →
      update rpc isDone fuel (.good tail) = .ok .finalityViolated := by
    rcases built with old | ⟨walked, frontNumber, frontHash⟩
    · exact adopts.violated block old number different
    · exact adopts.violated front walked frontNumber frontHash
  exact joins.update_ne_finalityViolated answered needed
    (violated _ (by omega))

theorem not_skipsFinalized
    (answered : finalizedAndLatest rpc = .ok (finalized, latest))
    (notBelow : tail.stableTip.number ≤ finalized.number)
    (adopts : AdoptsOnlyFinalized rpc isDone tail finalized latest) :
    ¬ SkipsFinalized rpc isDone tail finalized latest := by
  intro ⟨front, below, block, above, joins, allLower, higher, linked⟩
  have notAbove : ¬ finalized.number < front.number := fun frontHigher =>
    UInt64.lt_asymm (allLower front List.mem_cons_self) frontHigher
  have cut : afterJoin finalized tail front (below ++ block :: above) =
      some (block :: above) := by
    rw [afterJoin, extendFromTail_of_not_above notAbove]
    exact popFrontBelow_eq_some_iff.mpr ⟨front :: below, block, above, rfl, rfl,
      allLower, UInt64.le_of_lt higher⟩
  have nonempty := List.cons_ne_nil block above
  have updated := joins.update_eq answered 0
  rw [cut] at updated
  simp only [Rebuilt.finish, Tail.new_of_linked nonempty linked] at updated
  have isNew : (⟨block :: above, nonempty, linked⟩ : Tail) ≠ tail := by
    intro same
    rw [← same] at notBelow
    exact absurd higher (UInt64.not_lt.mpr notBelow)
  have number := (adopts.adopted _ _ updated isNew).1
  have stableTip : block.number = finalized.number := number
  rw [stableTip] at higher
  exact UInt64.lt_irrefl _ higher

/-- The update adopts nothing but the finalized block exactly when its walk
neither joins the old tail at or above a conflicting block of the finalized
height nor skips that height. -/
theorem adoptsOnlyFinalized_iff
    (answered : finalizedAndLatest rpc = .ok (finalized, latest))
    (notBelow : tail.stableTip.number ≤ finalized.number) :
    AdoptsOnlyFinalized rpc isDone tail finalized latest ↔
      ¬ JoinsAboveConflict rpc isDone tail finalized latest ∧
        ¬ SkipsFinalized rpc isDone tail finalized latest := by
  constructor
  · intro adopts
    exact ⟨not_joinsAboveConflict answered adopts,
      not_skipsFinalized answered notBelow adopts⟩
  · intro ⟨conflictFree, skipFree⟩
    constructor
    · intro fuel newTail updated isNew
      exact adopted_of_free answered notBelow conflictFree skipFree updated
        isNew
    · intro block built sameNumber otherHash
      exact violated_of_free answered conflictFree built sameNumber otherHash

end Exact

/-! ### A finalized block on another fork -/

/-- A child of block 0 beside block 1. -/
def forkedBlock : Block where
  number := 1
  hash := SizedBytes.replicate 32 9
  parentHash := (chainBlock 0).hash
  timestamp := 0

/-- A node whose latest block is block 2 and whose finalized block is the
forked one. -/
def forkRpc : BlockRpc :=
  let getBlock : BlockIdentifier → Except RpcError Block
    | .latest => .ok (chainBlock 2)
    | .finalized => .ok forkedBlock
    | .hash hash =>
        match [chainBlock 0, chainBlock 1, chainBlock 2, forkedBlock].find?
            fun block => block.hash = hash with
        | some block => .ok block
        | none => .error .notFound
    | _ => .error .notFound
  { getBlock := getBlock
    getBlocks := fun identifiers => .ok (identifiers.map getBlock) }

/-- The tail before the update. -/
def oldTail : Tail where
  blocks := [chainBlock 0, chainBlock 1]
  nonempty := List.cons_ne_nil _ _
  linked := (NodeView.Linked.singleton (chainBlock 1)).cons
    ⟨by decide, by decide⟩

/-- The tail after the update, whose first block is not finalized. -/
def adoptedTail : Tail where
  blocks := [chainBlock 1, chainBlock 2]
  nonempty := List.cons_ne_nil _ _
  linked := (NodeView.Linked.singleton (chainBlock 2)).cons
    ⟨by decide, by decide⟩

/-- The walk from block 2 joins the old tail at block 1, which becomes the
stable tip beside the finalized block. -/
theorem adopts_block_beside_finalized :
    finalizedAndLatest forkRpc = .ok (forkedBlock, chainBlock 2) ∧
      oldTail.stableTip.number ≤ forkedBlock.number ∧
      update forkRpc (fun _ => false) 2 (.good oldTail) =
        .ok (.good adoptedTail) ∧
      ¬ AdoptsOnlyFinalized forkRpc (fun _ => false) oldTail forkedBlock
        (chainBlock 2) := by
  have updated : update forkRpc (fun _ => false) 2 (.good oldTail) =
      .ok (.good adoptedTail) := by
    decide +kernel
  refine ⟨rfl, by decide, updated, ?_⟩
  intro adopts
  have sameHash := (adopts.adopted 2 adoptedTail updated (by decide)).2
  exact absurd sameHash (by decide)

theorem adoptsOnlyFinalized_iff_fork :
    AdoptsOnlyFinalized forkRpc (fun _ => false) oldTail forkedBlock
        (chainBlock 2) ↔
      ¬ JoinsAboveConflict forkRpc (fun _ => false) oldTail forkedBlock
          (chainBlock 2) ∧
        ¬ SkipsFinalized forkRpc (fun _ => false) oldTail forkedBlock
          (chainBlock 2) :=
  adoptsOnlyFinalized_iff rfl (by decide)

end FinalityTagChainStatusUpdater

end RiskManagement
