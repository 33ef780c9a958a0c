import Mathlib.Data.Finset.Insert

/-!
# Bit sets

The crate that the node keeps its sets of numbers in is a parameter: a type
with its three operations, and the laws of its documentation.  A bit set is as
long as its largest number, so that an insertion may not return.
-/

/-- A set of 64-bit numbers with the operations of the crate. -/
class BitSet (Bits : Type) where
  empty : Bits
  contains : Bits → UInt64 → Bool
  /-- `none` is an insertion that panics: the set cannot grow so far. -/
  insert : Bits → UInt64 → Option Bits

/-- The documented behaviour of an insertion that returns. -/
class LawfulBitSet (Bits : Type) [BitSet Bits] : Prop where
  contains_empty (number : UInt64) :
    BitSet.contains (BitSet.empty : Bits) number = false
  contains_insert {before after : Bits} {number : UInt64}
    (inserted : BitSet.insert before number = some after) (other : UInt64) :
    BitSet.contains after other = true ↔
      other = number ∨ BitSet.contains before other = true

namespace BitSet

/-- There is memory for the numbers below the bound. -/
def HasRoom (Bits : Type) [BitSet Bits] (bound : UInt64) : Prop :=
  ∀ (bits : Bits) (number : UInt64), number < bound →
    ∃ after, insert bits number = some after

end BitSet

/-! ### A set with little room -/

/-- Its numbers are below 2^32. -/
structure SmallBitSet where
  numbers : Finset UInt64
deriving DecidableEq

namespace SmallBitSet

def bound : UInt64 := 0x100000000

instance : BitSet SmallBitSet where
  empty := ⟨∅⟩
  contains bits number := number ∈ bits.numbers
  insert bits number :=
    if number < bound then some ⟨insert number bits.numbers⟩ else none

instance : LawfulBitSet SmallBitSet where
  contains_empty number := by simp [BitSet.contains, BitSet.empty]
  contains_insert := by
    intro before after number inserted other
    simp only [BitSet.insert] at inserted
    split at inserted
    · cases inserted
      simp [BitSet.contains]
    · cases inserted

theorem hasRoom : BitSet.HasRoom SmallBitSet bound := by
  intro bits number below
  exact ⟨_, if_pos below⟩

end SmallBitSet
