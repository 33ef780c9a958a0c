import Mathlib.Algebra.Group.Nat.Defs
import Mathlib.Data.Nat.Log
import RiskManagement.Library.PairedLevels

/-!
# Padded binary trees

The root of a tree of a given depth is the combination of the roots of its two
halves, the first of which is full before the second begins.  Building the
tree level by level gives the same root.
-/

namespace PaddedTree

open PairedLevels

variable {α : Type}

section Root

variable (order : α → α → α × α) (padding : α) (combine : α × α → α)

/-- The root of a tree of some depth over its leaves.  A second half without
leaves is padding. -/
def root : Nat → List α → α
  | 0, leaves => leaves.headD padding
  | depth + 1, leaves =>
      let left := root depth (leaves.take (2 ^ depth))
      let remaining := leaves.drop (2 ^ depth)
      let right := if remaining.isEmpty then padding else root depth remaining
      combine (order left right)

/-! ### Cutting a level -/

theorem levelUp_cut (half : Nat) (leaves : List α) :
    levelUp order padding combine (leaves.take (2 * half)) =
        (levelUp order padding combine leaves).take half ∧
      levelUp order padding combine (leaves.drop (2 * half)) =
        (levelUp order padding combine leaves).drop half := by
  by_cases inside : 2 * half ≤ leaves.length
  · have length : (leaves.take (2 * half)).length = 2 * half :=
      List.length_take_of_le inside
    have front : (levelUp order padding combine
        (leaves.take (2 * half))).length = half := by
      rw [length_levelUp, length]
      omega
    have whole : levelUp order padding combine leaves =
        levelUp order padding combine (leaves.take (2 * half)) ++
          levelUp order padding combine (leaves.drop (2 * half)) := by
      rw [← levelUp_append order padding combine (by omega),
        List.take_append_drop]
    constructor
    · rw [whole, List.take_left' front]
    · rw [whole, List.drop_left' front]
  · have beyond :
        (levelUp order padding combine leaves).length ≤ half := by
      rw [length_levelUp]
      omega
    rw [List.take_of_length_le (by omega), List.drop_of_length_le (by omega),
      List.take_of_length_le beyond, List.drop_of_length_le beyond]
    exact ⟨rfl, rfl⟩

theorem isEmpty_levelUp (leaves : List α) :
    (levelUp order padding combine leaves).isEmpty = leaves.isEmpty := by
  rcases leaves with _ | ⟨first, _ | ⟨second, rest⟩⟩
  · rfl
  · rfl
  · rfl

/-! ### The next level -/

theorem root_succ_eq (depth : Nat) {leaves : List α}
    (nonempty : leaves ≠ []) (fits : leaves.length ≤ 2 ^ (depth + 1)) :
    root order padding combine (depth + 1) leaves =
      root order padding combine depth
        (levelUp order padding combine leaves) := by
  induction depth generalizing leaves with
  | zero =>
      rcases leaves with _ | ⟨first, _ | ⟨second, _ | ⟨third, rest⟩⟩⟩
      · exact absurd rfl nonempty
      · rfl
      · rfl
      · simp at fits
  | succ depth ih =>
      have double : 2 ^ (depth + 1) = 2 * 2 ^ depth := by
        rw [Nat.pow_succ, Nat.mul_comm]
      have positive : 0 < 2 ^ (depth + 1) := Nat.two_pow_pos _
      have longer : 2 ^ (depth + 1 + 1) = 2 ^ (depth + 1) * 2 :=
        Nat.pow_succ ..
      obtain ⟨frontUp, backUp⟩ :=
        levelUp_cut order padding combine (2 ^ depth) leaves
      have left := @ih (leaves.take (2 ^ (depth + 1)))
        (by simp [nonempty]) (List.length_take_le _ _)
      rw [double, frontUp] at left
      rw [root.eq_def, root.eq_def _ _ _ (depth + 1)]
      simp only
      rw [double, left, ← backUp, isEmpty_levelUp]
      split
      · rfl
      · rename_i remain
        have right := @ih (leaves.drop (2 * 2 ^ depth))
          (by simpa using remain) (by rw [List.length_drop]; omega)
        rw [right]

end Root

/-! ### Levels -/

/-- Levels lead to the root of the tree that is just deep enough. -/
theorem builds_root {order : α → α → α × α} {padding : α}
    {combine : α × α → α} {leaves : List α} {pairs : List (α × α)} {top : α}
    (builds : Builds order padding combine leaves pairs top) :
    top = root order padding combine (Nat.clog 2 leaves.length) leaves := by
  induction builds with
  | root node => simp [root]
  | @level nodes above top long _ ih =>
      have deeper : Nat.clog 2 nodes.length =
          Nat.clog 2 ((nodes.length + 1) / 2) + 1 :=
        Nat.clog_of_two_le (by decide) long
      have nonempty : nodes ≠ [] := by
        apply List.ne_nil_of_length_pos
        omega
      have fits : nodes.length ≤
          2 ^ (Nat.clog 2 ((nodes.length + 1) / 2) + 1) := by
        rw [← deeper]
        exact Nat.le_pow_clog (by decide) _
      rw [length_levelUp] at ih
      rw [ih, deeper, root_succ_eq order padding combine _ nonempty fits]

end PaddedTree
