import RiskManagement.Afn.ChainStatusWorker

/-!
# What a walk back can do

`Walks` is the big-step reading of the loop `walkBack`: one constructor for
each exit and one for a pushed parent.  The deque invariants of both updates
are derived from it by induction, never from the loop itself.
-/

namespace RiskManagement

/-- Blocks fetched by hash are served and have that hash. -/
def ServesParents (parentOf : Bytes32 → Except RpcError Block)
    (served : Block → Prop) : Prop :=
  ∀ hash block, parentOf hash = .ok block → served block ∧ block.hash = hash

/-- A walk from `head :: rest` ends with the given outcome. -/
inductive Walks (parentOf : Bytes32 → Except RpcError Block)
    (conflicts : Block → Bool) (tail : Tail) :
    Block → List Block → WalkBack → Prop where
  | joined {head : Block} {rest : List Block} :
      tail.contains head = true →
      Walks parentOf conflicts tail head rest (.joined head rest)
  | stable {head : Block} {rest : List Block} :
      tail.contains head = false →
      head.number = tail.stableTip.number →
      Walks parentOf conflicts tail head rest
        (.finalityViolated (head :: rest))
  | conflict {head : Block} {rest : List Block} :
      tail.contains head = false →
      head.number ≠ tail.stableTip.number →
      conflicts head = true →
      Walks parentOf conflicts tail head rest
        (.finalityViolated (head :: rest))
  | rewound {head : Block} {rest : List Block} :
      tail.contains head = false →
      conflicts head = false →
      head.number.toNat < tail.stableTip.number.toNat →
      Walks parentOf conflicts tail head rest (.rewound (head :: rest))
  | push {head parent : Block} {rest : List Block} {outcome : WalkBack} :
      tail.contains head = false →
      conflicts head = false →
      tail.stableTip.number.toNat < head.number.toNat →
      parentOf head.parentHash = .ok parent →
      Walks parentOf conflicts tail parent (head :: rest) outcome →
      Walks parentOf conflicts tail head rest outcome

section Loop

variable {parentOf : Bytes32 → Except RpcError Block}
  {conflicts : Block → Bool} {isDone : Nat → Bool} {tail : Tail}

theorem walkBack_walks {fuel : Nat} {head : Block} {rest : List Block}
    {outcome : WalkBack}
    (success : walkBack parentOf conflicts isDone tail fuel head rest =
      .ok outcome) :
    Walks parentOf conflicts tail head rest outcome := by
  induction fuel generalizing head rest with
  | zero => simp [walkBack] at success
  | succ fuel induction =>
      rw [walkBack] at success
      split at success
      · cases success
      · split at success
        · rename_i contained
          cases success
          exact .joined contained
        · rename_i notContained
          have outside : tail.contains head = false := by
            simpa using notContained
          split at success
          · rename_i same
            cases success
            exact .stable outside same
          · rename_i different
            split at success
            · rename_i conflict
              cases success
              exact .conflict outside different conflict
            · rename_i noConflict
              have agrees : conflicts head = false := by
                simpa using noConflict
              split at success
              · rename_i below
                cases success
                exact .rewound outside agrees
                  (UInt64.lt_iff_toNat_lt.mp below)
              · rename_i notBelow
                split at success
                · cases success
                · rename_i parent fetched
                  exact .push outside agrees
                    (Word64.toNat_lt_of_ne_of_not_lt different notBelow)
                    fetched (induction success)

/-- Besides a shutdown and a node error, only missing fuel stops the loop. -/
theorem walkBack_error {fuel : Nat} {head : Block} {rest : List Block}
    {error : UpdateError}
    (failure : walkBack parentOf conflicts isDone tail fuel head rest =
      .error error) :
    (error = .shutdown ∧ ∃ pushed, isDone pushed = true) ∨
      (∃ cause hash, error = .rpc cause ∧ parentOf hash = .error cause) ∨
        error = .outOfFuel := by
  induction fuel generalizing head rest with
  | zero =>
      cases failure
      exact .inr (.inr rfl)
  | succ fuel induction =>
      rw [walkBack] at failure
      split at failure
      · rename_i done
        cases failure
        exact .inl ⟨rfl, rest.length, done⟩
      · repeat' split at failure
        all_goals first
          | cases failure; done
          | exact induction failure
          | skip
        rename_i cause fetched
        cases failure
        exact .inr (.inl ⟨cause, _, rfl, fetched⟩)

/-- Numbers drop by one with every push and never below the stable tip, so
fuel above the distance to it is enough. -/
theorem walkBack_ne_outOfFuel {served : Block → Prop}
    (tree : Block.view.IsTree served) (serves : ServesParents parentOf served)
    {fuel : Nat} {head : Block} {rest : List Block}
    (headServed : served head)
    (enough : head.number.toNat - tail.stableTip.number.toNat < fuel) :
    walkBack parentOf conflicts isDone tail fuel head rest ≠
      .error .outOfFuel := by
  induction fuel generalizing head rest with
  | zero => exact absurd enough (Nat.not_lt_zero _)
  | succ fuel induction =>
      rw [walkBack]
      split
      · simp
      · split
        · simp
        · split
          · simp
          · rename_i different
            split
            · simp
            · split
              · simp
              · rename_i notBelow
                split
                · simp
                · rename_i parent fetched
                  obtain ⟨parentServed, parentHash⟩ := serves _ _ fetched
                  have step := tree.parent_height parent head parentServed
                    headServed parentHash
                  have above :=
                    Word64.toNat_lt_of_ne_of_not_lt different notBelow
                  change parent.number.toNat + 1 = head.number.toNat at step
                  apply induction parentServed
                  omega

end Loop

section Outcome

variable {parentOf : Bytes32 → Except RpcError Block}
  {conflicts : Block → Bool} {tail : Tail} {served : Block → Prop}

/-- A deque under construction: linked, and made of served blocks. -/
structure ServedDeque (served : Block → Prop) (deque : List Block) :
    Prop where
  linked : Block.view.Linked deque
  served : ∀ block ∈ deque, served block

namespace ServedDeque

theorem singleton {block : Block} (blockServed : served block) :
    ServedDeque served [block] := by
  constructor
  · exact NodeView.Linked.singleton block
  · intro other member
    have same : other = block := by simpa using member
    exact same ▸ blockServed

theorem push {parent head : Block} {rest : List Block}
    (deque : ServedDeque served (head :: rest))
    (parentServed : served parent)
    (link : Block.view.IsParent parent head) :
    ServedDeque served (parent :: head :: rest) := by
  constructor
  · exact deque.linked.cons link
  · intro block member
    rcases List.mem_cons.mp member with same | later
    · exact same ▸ parentServed
    · exact deque.served block later

end ServedDeque

theorem Walks.suffix_newTail {head : Block} {rest : List Block}
    {outcome : WalkBack}
    (walk : Walks parentOf conflicts tail head rest outcome) :
    head :: rest <:+ outcome.newTail := by
  induction walk with
  | joined _ => exact List.suffix_refl _
  | stable _ _ => exact List.suffix_refl _
  | conflict _ _ _ => exact List.suffix_refl _
  | rewound _ _ _ => exact List.suffix_refl _
  | push _ _ _ _ _ induction =>
      exact (List.suffix_cons _ _).trans induction

theorem Walks.servedDeque (tree : Block.view.IsTree served)
    (serves : ServesParents parentOf served) {head : Block}
    {rest : List Block} {outcome : WalkBack}
    (walk : Walks parentOf conflicts tail head rest outcome)
    (deque : ServedDeque served (head :: rest)) :
    ServedDeque served outcome.newTail := by
  induction walk with
  | joined _ => exact deque
  | stable _ _ => exact deque
  | conflict _ _ _ => exact deque
  | rewound _ _ _ => exact deque
  | @push head parent rest outcome _ _ _ fetched _ induction =>
      obtain ⟨parentServed, parentHash⟩ := serves _ _ fetched
      have headServed : served head :=
        deque.served head List.mem_cons_self
      apply induction
      apply deque.push parentServed
      exact tree.isParent parentServed headServed parentHash

/-- The walk adds at most as many blocks as the start is above the stable
tip. -/
theorem Walks.length_le (tree : Block.view.IsTree served)
    (serves : ServesParents parentOf served) {head : Block}
    {rest : List Block} {outcome : WalkBack}
    (walk : Walks parentOf conflicts tail head rest outcome)
    (headServed : served head) :
    outcome.newTail.length ≤
      (head :: rest).length +
        (head.number.toNat - tail.stableTip.number.toNat) := by
  induction walk with
  | joined _ => exact Nat.le_add_right _ _
  | stable _ _ => exact Nat.le_add_right _ _
  | conflict _ _ _ => exact Nat.le_add_right _ _
  | rewound _ _ _ => exact Nat.le_add_right _ _
  | @push head parent rest outcome _ _ above fetched _ induction =>
      obtain ⟨parentServed, parentHash⟩ := serves _ _ fetched
      have step := tree.parent_height parent head parentServed headServed
        parentHash
      change parent.number.toNat + 1 = head.number.toNat at step
      have bound := induction parentServed
      simp only [List.length_cons] at bound ⊢
      omega

theorem Walks.joined_contains {start front : Block} {rest pushed : List Block}
    (walk : Walks parentOf conflicts tail start rest (.joined front pushed)) :
    tail.contains front = true := by
  generalize outcomeEq : WalkBack.joined front pushed = outcome at walk
  induction walk with
  | joined contained =>
      cases outcomeEq
      exact contained
  | stable _ _ => cases outcomeEq
  | conflict _ _ _ => cases outcomeEq
  | rewound _ _ _ => cases outcomeEq
  | push _ _ _ _ _ induction => exact induction outcomeEq

end Outcome

/-! ## Extending and trimming the deque -/

/-- Two blocks of a tail with consecutive numbers are parent and child. -/
theorem Tail.isParent_of_mem {tail : Tail} {parent child : Block}
    (parentMember : parent ∈ tail.blocks) (childMember : child ∈ tail.blocks)
    (consecutive : parent.number.toNat + 1 = child.number.toNat) :
    Block.view.IsParent parent child := by
  obtain ⟨parentIndex, parentInside, rfl⟩ :=
    List.getElem_of_mem parentMember
  obtain ⟨childIndex, childInside, rfl⟩ := List.getElem_of_mem childMember
  rw [tail.number_getElem _ parentInside,
    tail.number_getElem _ childInside] at consecutive
  have next : childIndex = parentIndex + 1 := by omega
  subst next
  exact tail.linked.isParent_getElem parentIndex childInside

/-- What is kept of a joined deque: linked, and all of it on the old tail's
chain. -/
structure JoinedDeque (tail : Tail) (deque : List Block) : Prop where
  linked : Block.view.Linked deque
  descends : ∀ block ∈ deque, Block.view.Descends block tail.stableTip

namespace JoinedDeque

variable {tail : Tail}

theorem of_front_mem {front : Block} {rest : List Block}
    (linked : Block.view.Linked (front :: rest))
    (member : front ∈ tail.blocks) : JoinedDeque tail (front :: rest) := by
  constructor
  · exact linked
  · intro block blockMember
    exact (linked.descends_head block blockMember).trans
      (tail.descends_stableTip member)

theorem suffix {deque kept : List Block} (whole : JoinedDeque tail deque)
    (isSuffix : kept <:+ deque) : JoinedDeque tail kept := by
  constructor
  · exact whole.linked.suffix isSuffix
  · intro block member
    exact whole.descends block (isSuffix.subset member)

end JoinedDeque

theorem extendFromTail_suffix (wanted : Block → List Block → Bool)
    (tail : Tail) (front : Block) (rest : List Block) :
    front :: rest <:+ extendFromTail wanted tail front rest := by
  fun_induction extendFromTail wanted tail front rest with
  | case1 front rest _ predecessor _ induction =>
      exact (List.suffix_cons _ _).trans induction
  | case2 front rest _ _ => exact List.suffix_refl _
  | case3 front rest _ => exact List.suffix_refl _

theorem extendFromTail_ne_nil (wanted : Block → List Block → Bool)
    (tail : Tail) (front : Block) (rest : List Block) :
    extendFromTail wanted tail front rest ≠ [] := by
  have isSuffix := extendFromTail_suffix wanted tail front rest
  intro isNil
  rw [isNil] at isSuffix
  exact absurd (List.suffix_nil.mp isSuffix) (List.cons_ne_nil _ _)

/-- Pushed predecessors come from the old tail, so the deque stays linked and
made of blocks of the two sources. -/
theorem extendFromTail_joined (wanted : Block → List Block → Bool)
    {tail : Tail} {front : Block} {rest : List Block}
    (linked : Block.view.Linked (front :: rest))
    (member : front ∈ tail.blocks) :
    JoinedDeque tail (extendFromTail wanted tail front rest) := by
  fun_induction extendFromTail wanted tail front rest with
  | case1 front rest _ predecessor found induction =>
      obtain ⟨predecessorMember, consecutive⟩ :=
        Tail.predecessor_eq_some_iff.mp found
      apply induction _ predecessorMember
      apply linked.cons
      exact Tail.isParent_of_mem predecessorMember member consecutive
  | case2 front rest _ _ => exact .of_front_mem linked member
  | case3 front rest _ => exact .of_front_mem linked member

theorem mem_extendFromTail {wanted : Block → List Block → Bool}
    {tail : Tail} {front block : Block} {rest : List Block}
    (member : block ∈ extendFromTail wanted tail front rest) :
    block ∈ front :: rest ∨ block ∈ tail.blocks := by
  fun_induction extendFromTail wanted tail front rest with
  | case1 front rest _ predecessor found induction =>
      rcases induction member with pushed | old
      · rcases List.mem_cons.mp pushed with same | earlier
        · have predecessorMember :=
            (Tail.predecessor_eq_some_iff.mp found).1
          exact .inr (same ▸ predecessorMember)
        · exact .inl earlier
      · exact .inr old
  | case2 front rest _ _ => exact .inl member
  | case3 front rest _ => exact .inl member

theorem popFrontLongerThan_suffix (len : Nat) (deque : List Block) :
    popFrontLongerThan len deque <:+ deque := by
  induction deque with
  | nil => exact List.suffix_refl _
  | cons front rest induction =>
      rw [popFrontLongerThan]
      split
      · exact induction.trans (List.suffix_cons _ _)
      · exact List.suffix_refl _

theorem popFrontLongerThan_ne_nil {len : Nat} {deque : List Block}
    (positive : 0 < len) (nonempty : deque ≠ []) :
    popFrontLongerThan len deque ≠ [] := by
  induction deque with
  | nil => exact absurd rfl nonempty
  | cons front rest induction =>
      rw [popFrontLongerThan]
      split
      · rename_i longer
        apply induction
        intro isNil
        subst isNil
        simp only [List.length_cons, List.length_nil] at longer
        omega
      · exact List.cons_ne_nil _ _

theorem popFrontBelow_suffix {number : UInt64} {deque kept : List Block}
    (popped : popFrontBelow number deque = some kept) : kept <:+ deque := by
  induction deque with
  | nil => cases popped
  | cons front rest induction =>
      rw [popFrontBelow] at popped
      split at popped
      · exact (induction popped).trans (List.suffix_cons _ _)
      · cases popped
        exact List.suffix_refl _

theorem popFrontBelow_ne_nil {number : UInt64} {deque kept : List Block}
    (popped : popFrontBelow number deque = some kept) : kept ≠ [] := by
  induction deque with
  | nil => cases popped
  | cons front rest induction =>
      rw [popFrontBelow] at popped
      split at popped
      · exact induction popped
      · cases popped
        exact List.cons_ne_nil _ _

/-- A block that is not below the number stops the trimming. -/
theorem popFrontBelow_isSome {number : UInt64} {deque : List Block}
    {last : Block} (isLast : [last] <:+ deque)
    (notBelow : number ≤ last.number) :
    ∃ kept, popFrontBelow number deque = some kept := by
  induction deque with
  | nil => simp at isLast
  | cons front rest induction =>
      rw [popFrontBelow]
      split
      · rename_i below
        rcases List.suffix_cons_iff.mp isLast with whole | inner
        · cases whole
          exact absurd below (UInt64.not_lt.mpr notBelow)
        · exact induction inner
      · exact ⟨front :: rest, rfl⟩

theorem last_suffix_of_suffix {last : Block} {deque kept : List Block}
    (isLast : [last] <:+ deque) (isSuffix : kept <:+ deque)
    (nonempty : kept ≠ []) : [last] <:+ kept := by
  apply List.suffix_of_suffix_length_le isLast isSuffix
  exact List.length_pos_iff.mpr nonempty

theorem Tail.tip_of_last_suffix {tail : Tail} {last : Block}
    (isLast : [last] <:+ tail.blocks) : tail.tip = last := by
  obtain ⟨init, split⟩ := isLast
  rw [Tail.tip]
  simp only [← split, List.getLast_append_singleton]

end RiskManagement
