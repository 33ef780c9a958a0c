import Mathlib.Data.List.Perm.Basic
import Mathlib.Data.List.Perm.Subperm

/-!
# Collisions among the inputs of a hash function

Equal hash values come from equal inputs, unless two different inputs that
were really hashed collide.
-/

namespace HashInputs

variable {α β : Type}

/-- Two different elements of the list have the same image. -/
def Collision (combine : α → β) (inputs : List α) : Prop :=
  ∃ first ∈ inputs, ∃ second ∈ inputs,
    first ≠ second ∧ combine first = combine second

theorem Collision.mono {combine : α → β} {few many : List α}
    (collision : Collision combine few) (subset : few ⊆ many) :
    Collision combine many := by
  obtain ⟨first, firstIn, second, secondIn, distinct, same⟩ := collision
  exact ⟨first, subset firstIn, second, subset secondIn, distinct, same⟩

/-- Without a collision equal images come from equal inputs. -/
theorem eq_of_not_collision {combine : α → β} {inputs : List α}
    (free : ¬Collision combine inputs) {first second : α}
    (firstIn : first ∈ inputs) (secondIn : second ∈ inputs)
    (same : combine first = combine second) : first = second := by
  by_contra distinct
  exact free ⟨first, firstIn, second, secondIn, distinct, same⟩

theorem perm_or_collision [DecidableEq α] {combine : α → β}
    {left right : List α}
    (images : (left.map combine).Perm (right.map combine)) :
    left.Perm right ∨ Collision combine (left ++ right) := by
  induction left generalizing right with
  | nil =>
      have empty : right = [] := by
        simpa using images.symm.eq_nil
      subst empty
      exact .inl .nil
  | cons first rest induction =>
      have image : combine first ∈ right.map combine :=
        images.subset List.mem_cons_self
      obtain ⟨second, secondIn, same⟩ := List.mem_map.mp image
      by_cases equal : first = second
      · subst equal
        have split := List.perm_cons_erase secondIn
        have remaining :
            (rest.map combine).Perm ((right.erase first).map combine) := by
          apply List.Perm.cons_inv
          exact images.trans (split.map combine)
        rcases induction remaining with perm | collision
        · exact .inl ((perm.cons first).trans split.symm)
        · apply Or.inr
          apply collision.mono
          apply List.append_subset.mpr
          constructor
          · intro other member
            exact List.mem_append_left _ (List.mem_cons_of_mem _ member)
          · intro other member
            exact List.mem_append_right _ (List.mem_of_mem_erase member)
      · exact .inr ⟨first, by simp, second, by simp [secondIn], equal,
          same.symm⟩

end HashInputs
