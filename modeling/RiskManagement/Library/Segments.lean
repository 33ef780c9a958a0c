import Mathlib.Data.List.Basic

/-!
# Segments of a longer list

`StandsAt input start segment` says that the segment is what the input holds
from the given position on.  Segments of an input are taken apart at their
joints and moved along with the position they are read from.
-/

namespace Segments

variable {α : Type}

/-- The segment is a prefix of the input behind the position. -/
def StandsAt (input : List α) (start : Nat) (segment : List α) : Prop :=
  segment <+: input.drop start

variable {input left right segment : List α} {start offset : Nat}

theorem standsAt_nil : StandsAt input start [] :=
  List.nil_prefix

theorem standsAt_append :
    StandsAt input start (left ++ right) ↔
      StandsAt input start left ∧
        StandsAt input (start + left.length) right := by
  rw [StandsAt, StandsAt, StandsAt, ← List.drop_drop]
  constructor
  · rintro ⟨rest, whole⟩
    rw [← whole, List.append_assoc, List.drop_left]
    exact ⟨List.prefix_append _ _, List.prefix_append _ _⟩
  · rintro ⟨⟨rest, whole⟩, inner⟩
    rw [← whole, List.drop_left] at inner
    rw [← whole]
    exact List.prefix_append_right_inj left |>.mpr inner

theorem standsAt_drop :
    StandsAt (input.drop offset) start segment ↔
      StandsAt input (offset + start) segment := by
  rw [StandsAt, StandsAt, List.drop_drop]

theorem StandsAt.length_le (stands : StandsAt input start segment) :
    segment.length ≤ input.length - start := by
  have bound := List.IsPrefix.length_le stands
  rwa [List.length_drop] at bound

theorem standsAt_iff_take :
    StandsAt input start segment ↔
      (input.drop start).take segment.length = segment := by
  rw [StandsAt, List.prefix_iff_eq_take, eq_comm]

theorem StandsAt.eq_of_length_eq (stands : StandsAt input 0 segment)
    (sameLength : segment.length = input.length) : segment = input :=
  List.IsPrefix.eq_of_length stands sameLength

end Segments
