import RiskManagement.Minieth.Rpc

/-!
# Chain status and its tail of blocks

A `Tail` is the window of blocks from the stable tip to the tip.  `Tail.new`
is its only constructor in the node, so the checks it makes are the fields of
the structure here.
-/

namespace RiskManagement

/-- Why blocks do not make a tail. -/
inductive TailError where
  | empty
  | gap (prevBlockNum blockNumber : UInt64) (blocks : List Block)
  | unmatchedParentHash (expected got : Bytes32) (blocks : List Block)
deriving DecidableEq

/-- A non-empty window of consecutively numbered blocks linked by hash. -/
structure Tail where
  blocks : List Block
  nonempty : blocks ≠ []
  linked : Block.view.Linked blocks
deriving DecidableEq

/-- What is known of a chain; a violation is final. -/
inductive ChainStatus where
  | finalityViolated
  | good (tail : Tail)
deriving DecidableEq

/-- The loop of `Tail::new`; `prev` is the number and hash of the block before
the remaining ones. -/
def checkLinks (blocks : List Block) :
    Option (UInt64 × Bytes32) → List Block → Except TailError Unit
  | _, [] => .ok ()
  | none, block :: rest =>
      checkLinks blocks (some (block.number, block.hash)) rest
  | some (prevBlockNum, prevHash), block :: rest =>
      if prevBlockNum = Word64.maxValue ∨ prevBlockNum + 1 ≠ block.number then
        .error (.gap prevBlockNum block.number blocks)
      else if prevHash ≠ block.parentHash then
        .error (.unmatchedParentHash block.hash prevHash blocks)
      else
        checkLinks blocks (some (block.number, block.hash)) rest

theorem Block.isParent_iff {parent child : Block} :
    Block.view.IsParent parent child ↔
      parent.hash = child.parentHash ∧
        parent.number.toNat + 1 = child.number.toNat :=
  Iff.rfl

/-- The two checks of the loop say that the previous block is the parent. -/
theorem Block.isParent_iff_checks {parent child : Block} :
    Block.view.IsParent parent child ↔
      ¬(parent.number = Word64.maxValue ∨ parent.number + 1 ≠ child.number) ∧
        ¬(parent.hash ≠ child.parentHash) := by
  rw [Block.isParent_iff, not_or, not_not, not_not]
  constructor
  · rintro ⟨named, consecutive⟩
    have childBound := Word64.toNat_lt_size child.number
    have below : parent.number ≠ Word64.maxValue :=
      Word64.ne_maxValue_iff.mpr (by omega)
    exact ⟨⟨below, (Word64.add_one_eq_iff below).mpr consecutive⟩, named⟩
  · rintro ⟨⟨below, successor⟩, named⟩
    exact ⟨named, (Word64.add_one_eq_iff below).mp successor⟩

theorem checkLinks_some_eq_ok_iff {blocks rest : List Block} {prev : Block} :
    checkLinks blocks (some (prev.number, prev.hash)) rest = .ok () ↔
      Block.view.Linked (prev :: rest) := by
  induction rest generalizing prev with
  | nil => simp [checkLinks, NodeView.Linked.singleton]
  | cons block rest induction =>
      rw [NodeView.linked_cons_cons, Block.isParent_iff_checks, checkLinks]
      split
      · rename_i gap
        simp [gap]
      · rename_i noGap
        split
        · rename_i mismatch
          simp [mismatch]
        · rename_i matched
          simp only [noGap, matched, not_false_eq_true, and_self, true_and]
          exact induction

theorem checkLinks_none_eq_ok_iff {blocks rest : List Block} :
    checkLinks blocks none rest = .ok () ↔ Block.view.Linked rest := by
  cases rest with
  | nil => simp [checkLinks, NodeView.Linked]
  | cons block rest => exact checkLinks_some_eq_ok_iff

namespace Tail

/-- Every block must be the parent of the next one. -/
def new (blocks : List Block) : Except TailError Tail :=
  if isEmpty : blocks = [] then
    .error .empty
  else
    match checked : checkLinks blocks none blocks with
    | .error error => .error error
    | .ok () => .ok ⟨blocks, isEmpty, checkLinks_none_eq_ok_iff.mp checked⟩

theorem new_of_linked {blocks : List Block} (nonempty : blocks ≠ [])
    (linked : Block.view.Linked blocks) :
    Tail.new blocks = .ok ⟨blocks, nonempty, linked⟩ := by
  have checked : checkLinks blocks none blocks = .ok () :=
    checkLinks_none_eq_ok_iff.mpr linked
  rw [new]
  rw [dif_neg nonempty]
  split
  · rename_i error failed
    rw [checked] at failed
    cases failed
  · rfl

/-- The tail of one block, as both updaters start with. -/
def single (block : Block) : Tail :=
  ⟨[block], List.cons_ne_nil block [], NodeView.Linked.singleton block⟩

def tip (tail : Tail) : Block := tail.blocks.getLast tail.nonempty

def stableTip (tail : Tail) : Block := tail.blocks.head tail.nonempty

/-- `None` for numbers below the stable tip; the index may lie past the end. -/
def indexByNumber (tail : Tail) (number : UInt64) : Option Nat :=
  (Word64.checkedSub number tail.stableTip.number).map UInt64.toNat

def blockByNumber (tail : Tail) (number : UInt64) : Option Block :=
  (tail.indexByNumber number).bind fun index => tail.blocks[index]?

/-- Whether the tail has this very block. -/
def contains (tail : Tail) (header : Block) : Bool :=
  (tail.blockByNumber header.number).any fun block =>
    block.hash = header.hash

theorem stableTip_mem (tail : Tail) : tail.stableTip ∈ tail.blocks :=
  List.head_mem tail.nonempty

/-- Positions in the tail count heights above the stable tip. -/
theorem number_getElem (tail : Tail) (index : Nat)
    (inside : index < tail.blocks.length) :
    tail.blocks[index].number.toNat =
      tail.stableTip.number.toNat + index := by
  obtain ⟨blocks, nonempty, linked⟩ := tail
  cases blocks with
  | nil => exact absurd rfl nonempty
  | cons head rest => exact linked.height_getElem index inside

theorem stableTip_number_le (tail : Tail) {block : Block}
    (member : block ∈ tail.blocks) :
    tail.stableTip.number.toNat ≤ block.number.toNat := by
  obtain ⟨index, inside, rfl⟩ := List.getElem_of_mem member
  rw [tail.number_getElem index inside]
  exact Nat.le_add_right _ _

theorem tip_number (tail : Tail) :
    tail.tip.number.toNat + 1 =
      tail.stableTip.number.toNat + tail.blocks.length := by
  have positive : 0 < tail.blocks.length :=
    List.length_pos_iff.mpr tail.nonempty
  have last := tail.number_getElem (tail.blocks.length - 1) (by omega)
  rw [← List.getLast_eq_getElem tail.nonempty] at last
  rw [tip]
  omega

theorem descends_stableTip (tail : Tail) {block : Block}
    (member : block ∈ tail.blocks) :
    Block.view.Descends block tail.stableTip := by
  obtain ⟨blocks, nonempty, linked⟩ := tail
  cases blocks with
  | nil => exact absurd rfl nonempty
  | cons head rest => exact linked.descends_head block member

/-- Looking a number up finds exactly the tail's block of that number. -/
theorem blockByNumber_eq_some_iff {tail : Tail} {number : UInt64}
    {block : Block} :
    tail.blockByNumber number = some block ↔
      block ∈ tail.blocks ∧ block.number = number := by
  rw [blockByNumber, indexByNumber]
  constructor
  · intro found
    obtain ⟨index, indexEq, lookup⟩ := Option.bind_eq_some_iff.mp found
    obtain ⟨difference, subtracted, rfl⟩ := Option.map_eq_some_iff.mp indexEq
    obtain ⟨inside, rfl⟩ := List.getElem?_eq_some_iff.mp lookup
    refine ⟨List.getElem_mem inside, ?_⟩
    rw [← UInt64.toNat_inj, tail.number_getElem _ inside]
    exact Word64.checkedSub_eq_some_iff.mp subtracted
  · rintro ⟨member, rfl⟩
    obtain ⟨index, inside, rfl⟩ := List.getElem_of_mem member
    have height := tail.number_getElem index inside
    have order : tail.stableTip.number ≤ tail.blocks[index].number := by
      rw [UInt64.le_iff_toNat_le]
      omega
    have offset : (tail.blocks[index].number - tail.stableTip.number).toNat =
        index := by
      rw [UInt64.toNat_sub_of_le _ _ order]
      omega
    rw [Word64.checkedSub_of_le order]
    simp [offset, inside]

theorem blockByNumber_isSome {tail : Tail} {number : UInt64}
    (lower : tail.stableTip.number.toNat ≤ number.toNat)
    (upper : number.toNat ≤ tail.tip.number.toNat) :
    ∃ block, tail.blockByNumber number = some block := by
  have length := tail.tip_number
  have inside : number.toNat - tail.stableTip.number.toNat <
      tail.blocks.length := by omega
  refine ⟨_, blockByNumber_eq_some_iff.mpr ⟨List.getElem_mem inside, ?_⟩⟩
  rw [← UInt64.toNat_inj, tail.number_getElem _ inside]
  omega

theorem contains_iff {tail : Tail} {header : Block} :
    tail.contains header = true ↔
      ∃ block ∈ tail.blocks,
        block.number = header.number ∧ block.hash = header.hash := by
  rw [contains]
  rw [Option.any_eq_true]
  constructor
  · rintro ⟨block, found, same⟩
    obtain ⟨member, number⟩ := blockByNumber_eq_some_iff.mp found
    exact ⟨block, member, number, by simpa using same⟩
  · rintro ⟨block, member, number, same⟩
    exact ⟨block, blockByNumber_eq_some_iff.mpr ⟨member, number⟩,
      by simpa using same⟩

/-- Where equal hashes mean equal blocks, a contained header is in the tail. -/
theorem contains_iff_mem {served : Block → Prop}
    (tree : Block.view.IsTree served) {tail : Tail}
    (tailServed : ∀ block ∈ tail.blocks, served block)
    {header : Block} (headerServed : served header) :
    tail.contains header = true ↔ header ∈ tail.blocks := by
  rw [contains_iff]
  constructor
  · rintro ⟨block, member, _, same⟩
    have equal : block = header :=
      tree.hash_injective block header (tailServed block member)
        headerServed same
    exact equal ▸ member
  · intro member
    exact ⟨header, member, rfl, rfl⟩

end Tail

namespace ChainStatus

def tip : ChainStatus → Option Block
  | .finalityViolated => none
  | .good tail => some tail.tip

def stableTip : ChainStatus → Option Block
  | .finalityViolated => none
  | .good tail => some tail.stableTip

def blockByNumber (status : ChainStatus) (number : UInt64) : Option Block :=
  match status with
  | .finalityViolated => none
  | .good tail => tail.blockByNumber number

def contains (status : ChainStatus) (header : Block) : Bool :=
  match status with
  | .finalityViolated => false
  | .good tail => tail.contains header

end ChainStatus

end RiskManagement
