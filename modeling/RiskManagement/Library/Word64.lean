import Mathlib.Data.UInt

/-!
# Unsigned 64-bit words

The checked, saturating and wrapping operations of a fixed-width unsigned
integer, each described by its effect on the natural number it stands for.
-/

namespace Word64

/-- The largest word. -/
def maxValue : UInt64 := 0xFFFFFFFFFFFFFFFF

/-- Subtraction that reports an underflow. -/
def checkedSub (minuend subtrahend : UInt64) : Option UInt64 :=
  if subtrahend ≤ minuend then some (minuend - subtrahend) else none

/-- Addition that reports an overflow. -/
def checkedAdd (augend addend : UInt64) : Option UInt64 :=
  if augend.toNat + addend.toNat < 2 ^ 64 then
    some (augend + addend)
  else
    none

/-- Multiplication that reports an overflow. -/
def checkedMul (multiplicand multiplier : UInt64) : Option UInt64 :=
  if multiplicand.toNat * multiplier.toNat < 2 ^ 64 then
    some (multiplicand * multiplier)
  else
    none

/-- Subtraction that stops at zero. -/
def saturatingSub (minuend subtrahend : UInt64) : UInt64 :=
  if subtrahend ≤ minuend then minuend - subtrahend else 0

/-- Addition that stops at the largest word. -/
def saturatingAdd (augend addend : UInt64) : UInt64 :=
  if augend.toNat + addend.toNat < 2 ^ 64 then augend + addend else maxValue

/-- Multiplication that stops at the largest word. -/
def saturatingMul (multiplicand multiplier : UInt64) : UInt64 :=
  if multiplicand.toNat * multiplier.toNat < 2 ^ 64 then
    multiplicand * multiplier
  else
    maxValue

theorem toNat_lt_size (word : UInt64) : word.toNat < 2 ^ 64 :=
  word.toNat_lt

theorem toNat_maxValue : maxValue.toNat = 2 ^ 64 - 1 := rfl

theorem ne_maxValue_iff {word : UInt64} :
    word ≠ maxValue ↔ word.toNat + 1 < 2 ^ 64 := by
  rw [Ne, ← UInt64.toNat_inj, toNat_maxValue]
  have := toNat_lt_size word
  omega

theorem le_maxValue (word : UInt64) : word ≤ maxValue := by
  have size := toNat_lt_size word
  rw [UInt64.le_iff_toNat_le, toNat_maxValue]
  omega

/-- The wrapping successor is the true successor below the largest word. -/
theorem toNat_add_one {word : UInt64} (below : word ≠ maxValue) :
    (word + 1).toNat = word.toNat + 1 := by
  have bound := ne_maxValue_iff.mp below
  rw [UInt64.toNat_add, UInt64.toNat_one]
  exact Nat.mod_eq_of_lt bound

theorem ne_maxValue_of_lt {word bound : UInt64} (less : word < bound) :
    word ≠ maxValue := by
  have size := toNat_lt_size bound
  rw [UInt64.lt_iff_toNat_lt] at less
  exact ne_maxValue_iff.mpr (by omega)

theorem toNat_lt_of_ne_of_not_lt {left right : UInt64}
    (different : left ≠ right) (notBelow : ¬left < right) :
    right.toNat < left.toNat := by
  rw [Ne, ← UInt64.toNat_inj] at different
  rw [UInt64.lt_iff_toNat_lt] at notBelow
  omega

theorem add_one_eq_iff {word successor : UInt64} (below : word ≠ maxValue) :
    word + 1 = successor ↔ word.toNat + 1 = successor.toNat := by
  rw [← UInt64.toNat_inj, toNat_add_one below]

theorem checkedSub_of_le {minuend subtrahend : UInt64}
    (order : subtrahend ≤ minuend) :
    checkedSub minuend subtrahend = some (minuend - subtrahend) :=
  if_pos order

theorem checkedSub_eq_some_iff {minuend subtrahend difference : UInt64} :
    checkedSub minuend subtrahend = some difference ↔
      subtrahend.toNat + difference.toNat = minuend.toNat := by
  rw [checkedSub]
  split
  · rename_i order
    have natOrder := UInt64.le_iff_toNat_le.mp order
    rw [Option.some.injEq, ← UInt64.toNat_inj,
      UInt64.toNat_sub_of_le _ _ order]
    omega
  · rename_i order
    have natOrder := UInt64.lt_iff_toNat_lt.mp (UInt64.not_le.mp order)
    simp only [reduceCtorEq, false_iff]
    omega

theorem checkedAdd_eq_some_iff {augend addend sum : UInt64} :
    checkedAdd augend addend = some sum ↔
      augend.toNat + addend.toNat = sum.toNat := by
  have bound := sum.toNat_lt
  rw [checkedAdd]
  split
  · rw [Option.some.injEq, ← UInt64.toNat_inj, UInt64.toNat_add]
    omega
  · simp only [reduceCtorEq, false_iff]
    omega

theorem checkedMul_eq_some_iff {multiplicand multiplier product : UInt64} :
    checkedMul multiplicand multiplier = some product ↔
      multiplicand.toNat * multiplier.toNat = product.toNat := by
  have bound := product.toNat_lt
  rw [checkedMul]
  split
  · rename_i fits
    rw [Option.some.injEq, ← UInt64.toNat_inj, UInt64.toNat_mul,
      Nat.mod_eq_of_lt fits]
  · simp only [reduceCtorEq, false_iff]
    omega

theorem checkedSub_one_eq_some_iff {word predecessor : UInt64} :
    checkedSub word 1 = some predecessor ↔
      predecessor.toNat + 1 = word.toNat := by
  rw [checkedSub_eq_some_iff, UInt64.toNat_one, Nat.add_comm]

theorem toNat_min (left right : UInt64) :
    (min left right).toNat = min left.toNat right.toNat := by
  change (if left ≤ right then left else right).toNat = _
  split
  · rename_i order
    rw [min_eq_left (UInt64.le_iff_toNat_le.mp order)]
  · rename_i order
    have natOrder := UInt64.lt_iff_toNat_lt.mp (UInt64.not_le.mp order)
    rw [min_eq_right (Nat.le_of_lt natOrder)]

theorem toNat_max (left right : UInt64) :
    (max left right).toNat = max left.toNat right.toNat := by
  change (if left ≤ right then right else left).toNat = _
  split
  · rename_i order
    rw [max_eq_right (UInt64.le_iff_toNat_le.mp order)]
  · rename_i order
    have natOrder := UInt64.lt_iff_toNat_lt.mp (UInt64.not_le.mp order)
    rw [max_eq_left (Nat.le_of_lt natOrder)]

theorem toNat_saturatingSub (minuend subtrahend : UInt64) :
    (saturatingSub minuend subtrahend).toNat =
      minuend.toNat - subtrahend.toNat := by
  rw [saturatingSub]
  split
  · rename_i order
    exact UInt64.toNat_sub_of_le _ _ order
  · rename_i order
    have natOrder := UInt64.lt_iff_toNat_lt.mp (UInt64.not_le.mp order)
    rw [UInt64.toNat_zero]
    omega

theorem toNat_saturatingAdd (augend addend : UInt64) :
    (saturatingAdd augend addend).toNat =
      min (augend.toNat + addend.toNat) (2 ^ 64 - 1) := by
  rw [saturatingAdd]
  split
  · rename_i fits
    rw [UInt64.toNat_add, Nat.mod_eq_of_lt fits]
    omega
  · rename_i tooLarge
    rw [toNat_maxValue]
    omega

theorem toNat_saturatingMul (multiplicand multiplier : UInt64) :
    (saturatingMul multiplicand multiplier).toNat =
      min (multiplicand.toNat * multiplier.toNat) (2 ^ 64 - 1) := by
  rw [saturatingMul]
  split
  · rename_i fits
    rw [UInt64.toNat_mul, Nat.mod_eq_of_lt fits]
    omega
  · rename_i tooLarge
    rw [toNat_maxValue]
    omega

/-- The middle of two ordered words does not overflow. -/
theorem midpoint_toNat {low high : UInt64} (order : low ≤ high) :
    (low + (high - low) / 2).toNat =
      low.toNat + (high.toNat - low.toNat) / 2 := by
  have natOrder := UInt64.le_iff_toNat_le.mp order
  have bound := high.toNat_lt
  have half : ((high - low) / 2).toNat = (high.toNat - low.toNat) / 2 := by
    rw [UInt64.toNat_div, UInt64.toNat_sub_of_le _ _ order]
    rfl
  rw [UInt64.toNat_add, half]
  omega

end Word64
