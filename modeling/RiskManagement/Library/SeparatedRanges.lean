import Mathlib.Data.List.Pairwise
import Mathlib.Order.Interval.Set.Basic

/-!
# Separated ranges of integers

A list of ranges in which no range is empty and between any two lies an
integer that neither holds.  A new range may replace those it contains, as long
as it stays apart from the others.
-/

namespace SeparatedRanges

variable {ρ : Type} {lower upper : ρ → Int}

/-- One of the ranges starts more than one past the end of the other. -/
def Apart (lower upper : ρ → Int) (left right : ρ) : Prop :=
  upper left + 1 < lower right ∨ upper right + 1 < lower left

instance : Std.Symm (Apart lower upper) :=
  ⟨fun _ _ apart => Or.symm apart⟩

/-- Ranges that cannot be joined with one another. -/
structure Separated (lower upper : ρ → Int) (ranges : List ρ) : Prop where
  nonempty : ∀ range ∈ ranges, lower range ≤ upper range
  apart : ranges.Pairwise (Apart lower upper)

/-- The integers that some range holds. -/
def covers (lower upper : ρ → Int) (ranges : List ρ) : Set Int :=
  {point | ∃ range ∈ ranges, lower range ≤ point ∧ point ≤ upper range}

theorem separated_nil : Separated lower upper [] :=
  ⟨fun _ member => absurd member List.not_mem_nil, List.Pairwise.nil⟩

/-- Two ranges of a separated list are the same or apart. -/
theorem Separated.eq_or_apart {ranges : List ρ}
    (separated : Separated lower upper ranges) {left right : ρ}
    (leftMember : left ∈ ranges) (rightMember : right ∈ ranges) :
    left = right ∨ Apart lower upper left right := by
  by_cases same : left = right
  · exact .inl same
  · exact .inr (separated.apart.forall leftMember rightMember same)

variable {ranges : List ρ} {keep : ρ → Bool} {inserted : ρ}

/-- The ranges that stay apart from a new one are kept beside it. -/
theorem Separated.replace (separated : Separated lower upper ranges)
    (nonempty : lower inserted ≤ upper inserted)
    (apart : ∀ range ∈ ranges, keep range = true →
      Apart lower upper range inserted) :
    Separated lower upper (ranges.filter keep ++ [inserted]) := by
  constructor
  · intro range member
    rcases List.mem_append.mp member with kept | isInserted
    · exact separated.nonempty range (List.mem_filter.mp kept).1
    · rw [List.mem_singleton.mp isInserted]
      exact nonempty
  · rw [List.pairwise_append]
    refine ⟨separated.apart.filter _, List.pairwise_singleton _ _, ?_⟩
    intro range kept other isInserted
    rw [List.mem_singleton.mp isInserted]
    obtain ⟨member, keeps⟩ := List.mem_filter.mp kept
    exact apart range member keeps

/-- Nothing is lost when the dropped ranges lie within the new one. -/
theorem covers_subset_replace
    (within : ∀ range ∈ ranges, keep range = false →
      lower inserted ≤ lower range ∧ upper range ≤ upper inserted) :
    covers lower upper ranges ⊆
      covers lower upper (ranges.filter keep ++ [inserted]) := by
  rintro point ⟨range, member, atLeast, atMost⟩
  cases keeps : keep range with
  | true =>
      refine ⟨range, ?_, atLeast, atMost⟩
      exact List.mem_append_left _ (List.mem_filter.mpr ⟨member, keeps⟩)
  | false =>
      obtain ⟨below, above⟩ := within range member keeps
      refine ⟨inserted, ?_, below.trans atLeast, atMost.trans above⟩
      exact List.mem_append_right _ (List.mem_singleton_self _)

end SeparatedRanges
