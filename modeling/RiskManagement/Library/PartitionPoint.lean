import Mathlib.Data.List.TakeWhile
import RiskManagement.Library.Loops

/-!
# Partition points

A binary search for the end of the items that a predicate holds of.  It only
looks at the items in the middle, so what it finds means something when the
predicate holds of the items up to some point and of none behind it.
-/

namespace PartitionPoint

open Loops

variable {α : Type} {holds : α → Bool} {items : List α}

/-- A turn on the bounds between which the point lies. -/
def turn (holds : α → Bool) (items : List α) : Body (Nat × Nat) Nat
  | (left, right) =>
      if left < right then
        let mid := left + (right - left) / 2
        items[mid]?.map fun item =>
          if holds item then .next (mid + 1, right) else .next (left, mid)
      else
        some (.exit left)

/-- Where the search ends.  Every turn brings the bounds closer, so the fuel
suffices. -/
def partitionPoint (holds : α → Bool) (items : List α) : Nat :=
  (iterate (turn holds items) (items.length + 1) (0, items.length)).getD 0

/-- The predicate holds of everything in front of an item it holds of. -/
def Partitioned (holds : α → Bool) (items : List α) : Prop :=
  items.Pairwise fun earlier later =>
    holds later = true → holds earlier = true

/-- The predicate holds in front of the bounds and of nothing behind them. -/
structure Bounds (holds : α → Bool) (items : List α)
    (left right : Nat) : Prop where
  order : left ≤ right
  inside : right ≤ items.length
  before : ∀ index (bound : index < items.length), index < left →
    holds items[index] = true
  behind : ∀ index (bound : index < items.length), right ≤ index →
    holds items[index] = false

theorem bounds_start : Bounds holds items 0 items.length := by
  constructor
  · exact Nat.zero_le _
  · exact Nat.le_refl _
  · intro index _ less
    exact absurd less (Nat.not_lt_zero index)
  · intro index bound past
    omega

section Middle

variable {left right mid : Nat}

theorem Partitioned.holds_getElem (partitioned : Partitioned holds items)
    (bound : mid < items.length) (isHeld : holds items[mid] = true)
    {index : Nat} (notLater : index ≤ mid) :
    holds items[index] = true := by
  rcases Nat.eq_or_lt_of_le notLater with rfl | earlier
  · exact isHeld
  · exact List.pairwise_iff_getElem.mp partitioned index mid (by omega) bound
      earlier isHeld

/-- Where the predicate holds in the middle, the point lies behind it. -/
theorem Bounds.upper (bounds : Bounds holds items left right)
    (partitioned : Partitioned holds items) (bound : mid < items.length)
    (below : mid < right) (isHeld : holds items[mid] = true) :
    Bounds holds items (mid + 1) right := by
  constructor
  · omega
  · exact bounds.inside
  · intro index _ less
    exact partitioned.holds_getElem bound isHeld (Nat.le_of_lt_succ less)
  · exact bounds.behind

/-- Where it does not, the point lies in the middle or in front of it. -/
theorem Bounds.lower (bounds : Bounds holds items left right)
    (partitioned : Partitioned holds items) (bound : mid < items.length)
    (above : left ≤ mid) (notHeld : holds items[mid] = false) :
    Bounds holds items left mid := by
  constructor
  · exact above
  · exact Nat.le_of_lt bound
  · exact bounds.before
  · intro index inside past
    cases isHeld : holds items[index] with
    | false => rfl
    | true =>
        have middle := partitioned.holds_getElem inside isHeld past
        rw [notHeld] at middle
        cases middle

/-- A turn keeps the bounds and brings them closer, or ends where they
meet. -/
theorem Bounds.turn (partitioned : Partitioned holds items)
    (bounds : Bounds holds items left right) :
    ∃ turned, PartitionPoint.turn holds items (left, right) = some turned ∧
      turned.Meets
        (fun after => Bounds holds items after.1 after.2 ∧
          after.2 - after.1 < right - left)
        (fun point => Bounds holds items point point) := by
  have order := bounds.order
  have inside := bounds.inside
  rw [PartitionPoint.turn]
  by_cases apart : left < right
  · have bound : left + (right - left) / 2 < items.length := by omega
    simp only [apart, if_true, List.getElem?_eq_getElem bound,
      Option.map_some]
    refine ⟨_, rfl, ?_⟩
    cases middle : holds items[left + (right - left) / 2] with
    | true =>
        simp only [if_true]
        exact ⟨bounds.upper partitioned bound (by omega) middle, by omega⟩
    | false =>
        simp only [Bool.false_eq_true, if_false]
        exact ⟨bounds.lower partitioned bound (by omega) middle, by omega⟩
  · have meet : right = left := by omega
    subst meet
    simp only [apart, if_false]
    exact ⟨_, rfl, bounds⟩

end Middle

theorem Partitioned.bounds_partitionPoint
    (partitioned : Partitioned holds items) :
    Bounds holds items (partitionPoint holds items)
      (partitionPoint holds items) := by
  let keeps : Nat × Nat → Prop := fun state =>
    Bounds holds items state.1 state.2
  have start : keeps (0, items.length) := bounds_start
  obtain ⟨point, returned⟩ : ∃ point, iterate (turn holds items)
      (items.length + 1) (0, items.length) = some point := by
    apply iterate_returns keeps (fun state => state.2 - state.1) ?_ start
    · exact Nat.lt_succ_self _
    · intro state bounds
      obtain ⟨turned, isTurn, meets⟩ := Bounds.turn partitioned bounds
      exact ⟨turned, isTurn, meets.imp (fun _ => id) fun _ _ => trivial⟩
  rw [partitionPoint, returned, Option.getD_some]
  apply iterate_invariant keeps (fun point => Bounds holds items point point)
    ?_ start returned
  intro state turn bounds isTurn
  obtain ⟨turned, isTurned, meets⟩ := Bounds.turn partitioned bounds
  cases isTurn.symm.trans isTurned
  exact meets.imp (fun _ => And.left) fun _ => id

theorem Bounds.drop {point : Nat} (bounds : Bounds holds items point point) :
    items.drop point = items.dropWhile holds := by
  have heldBefore : ∀ item ∈ items.take point, holds item = true := by
    intro item member
    obtain ⟨index, bound, rfl⟩ := List.getElem_of_mem member
    rw [List.length_take] at bound
    rw [List.getElem_take]
    exact bounds.before index (by omega) (by omega)
  conv => rhs; rw [← List.take_append_drop point items]
  rw [List.dropWhile_append_of_pos heldBefore]
  cases rest : items.drop point with
  | nil => rfl
  | cons item later =>
      have bound : point < items.length := by
        have left := congrArg List.length rest
        rw [List.length_drop, List.length_cons] at left
        omega
      rw [List.drop_eq_getElem_cons bound] at rest
      obtain ⟨rfl, _⟩ := List.cons.inj rest
      have ends := bounds.behind point bound (Nat.le_refl point)
      rw [List.dropWhile_cons_of_neg (by rw [ends]; exact Bool.false_ne_true)]

/-- Draining up to the partition point removes the items that hold. -/
theorem Partitioned.drop_partitionPoint
    (partitioned : Partitioned holds items) :
    items.drop (partitionPoint holds items) = items.dropWhile holds :=
  partitioned.bounds_partitionPoint.drop

end PartitionPoint
