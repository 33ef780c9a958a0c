import RiskManagement.Afn.CommitStoreCommon
import RiskManagement.Library.PaddedTree

/-!
# The tree that the Merkle loop computes the root of
-/

namespace RiskManagement

/-- The root of a subtree over its leafs, by its definition. -/
def subtreeRoot (keccak : Keccak) : Nat → List Bytes32 → Bytes32
  | 0, leafs => leafs.headD zeroHash
  | depth + 1, leafs =>
      let left := subtreeRoot keccak depth (leafs.take (2 ^ depth))
      let remaining := leafs.drop (2 ^ depth)
      let right :=
        if remaining.isEmpty then zeroHash
        else subtreeRoot keccak depth remaining
      if left < right then
        hashNode keccak left right
      else
        hashNode keccak right left

theorem hashSortedPair_sortPair (keccak : Keccak) (left right : Bytes32) :
    hashSortedPair keccak (sortPair left right) =
      if left < right then
        hashNode keccak left right
      else
        hashNode keccak right left := by
  rw [sortPair, hashSortedPair]
  split
  · rfl
  · rfl

theorem subtreeRoot_eq (keccak : Keccak) (depth : Nat)
    (leafs : List Bytes32) :
    subtreeRoot keccak depth leafs =
      PaddedTree.root sortPair zeroHash (hashSortedPair keccak) depth
        leafs := by
  induction depth generalizing leafs with
  | zero => rfl
  | succ depth ih =>
      rw [subtreeRoot, PaddedTree.root, ih, ih]
      simp only [hashSortedPair_sortPair]

theorem hashLeafs_nil (hash : Bytes32 × Bytes32 → Bytes32) :
    hashLeafs hash [] = some ⟨[], 0, []⟩ := by
  rw [hashLeafs, MerkleState.hashLevels]
  rfl

theorem rootFromHashedLeafs_eq_subtreeRoot (keccak : Keccak)
    {hashedLeafs : List Bytes32} (nonempty : hashedLeafs ≠ []) :
    rootFromHashedLeafs (hashSortedPair keccak) hashedLeafs =
      some (subtreeRoot keccak (Nat.clog 2 hashedLeafs.length)
        hashedLeafs) := by
  obtain ⟨root, run, builds⟩ :=
    rootFromHashedLeafs_builds (hashSortedPair keccak) nonempty
  rw [run, subtreeRoot_eq, PaddedTree.builds_root builds]

/-- The loops end without a panic.  They find no root without leafs, the leaf
itself of a single one, and the root of the tree that is just deep enough of
several. -/
theorem merkle_loop_computes_tree (keccak : Keccak)
    (hashedLeafs : List Bytes32) :
    (hashLeafs (hashSortedPair keccak) hashedLeafs).isSome ∧
      (rootFromHashedLeafs (hashSortedPair keccak) hashedLeafs = none ↔
        hashedLeafs = []) ∧
      (∀ leaf, hashedLeafs = [leaf] →
        rootFromHashedLeafs (hashSortedPair keccak) hashedLeafs =
          some leaf) ∧
      (hashedLeafs ≠ [] →
        rootFromHashedLeafs (hashSortedPair keccak) hashedLeafs =
          some (subtreeRoot keccak (Nat.clog 2 hashedLeafs.length)
            hashedLeafs)) := by
  by_cases empty : hashedLeafs = []
  · subst empty
    have run := hashLeafs_nil (hashSortedPair keccak)
    refine ⟨by rw [run]; rfl, ?_, ?_, ?_⟩
    · simp [rootFromHashedLeafs, run]
    · intro leaf single
      cases single
    · intro nonempty
      exact absurd rfl nonempty
  · have isRoot := rootFromHashedLeafs_eq_subtreeRoot keccak empty
    refine ⟨?_, by simp [isRoot, empty], ?_, fun _ => isRoot⟩
    · obtain ⟨final, _, _, run, _⟩ := MerkleState.hashLevels_builds
        (hashSortedPair keccak) ⟨hashedLeafs, 0, []⟩ empty
      rw [hashLeafs, run]
      rfl
    · intro leaf single
      subst single
      rw [isRoot]
      simp [subtreeRoot]

/-- A hash that adds up its bytes. -/
def sumHash (bytes : List UInt8) : Bytes32 :=
  .replicate 32 (bytes.foldl (· + ·) 0)

theorem merkle_loop_computes_tree_three :
    rootFromHashedLeafs (hashSortedPair sumHash)
        [.replicate 32 1, .replicate 32 2, .replicate 32 3] =
      some (subtreeRoot sumHash 2
        [.replicate 32 1, .replicate 32 2, .replicate 32 3]) := by
  have depth : Nat.clog 2 3 = 2 := by decide +kernel
  obtain ⟨_, _, _, several⟩ := merkle_loop_computes_tree sumHash
    [.replicate 32 1, .replicate 32 2, .replicate 32 3]
  have isRoot := several (List.cons_ne_nil _ _)
  rw [List.length_cons, List.length_cons, List.length_singleton, depth]
    at isRoot
  exact isRoot

end RiskManagement
