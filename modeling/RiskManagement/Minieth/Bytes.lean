import RiskManagement.Library.Word64

/-!
# Byte strings of the Ethereum client

`SizedBytes N` is an array of exactly `N` bytes and `Bytes` a growable vector.
A vector's length is a machine word, so the bound travels with the value.
-/

namespace RiskManagement

/-- A vector: any list whose length fits a 64-bit `usize`. -/
structure RustVec (α : Type) where
  toList : List α
  length_lt : toList.length < 2 ^ 64
deriving DecidableEq

def RustVec.empty {α : Type} : RustVec α where
  toList := []
  length_lt := Nat.two_pow_pos 64

/-- An array of exactly `size` bytes. -/
structure SizedBytes (size : Nat) where
  data : List UInt8
  size_eq : data.length = size
deriving DecidableEq

namespace SizedBytes

/-- Arrays are ordered lexicographically. -/
instance {size : Nat} : LT (SizedBytes size) :=
  ⟨fun left right => left.data < right.data⟩

instance {size : Nat} (left right : SizedBytes size) :
    Decidable (left < right) :=
  inferInstanceAs (Decidable (left.data < right.data))

theorem ext {size : Nat} {left right : SizedBytes size}
    (same : left.data = right.data) : left = right := by
  cases left
  cases right
  cases same
  rfl

/-- The array filled with one byte. -/
def replicate (size : Nat) (byte : UInt8) : SizedBytes size :=
  ⟨List.replicate size byte, List.length_replicate⟩

end SizedBytes

abbrev Bytes32 := SizedBytes 32
abbrev Address := SizedBytes 20

/-- A byte vector. -/
structure Bytes where
  vec : RustVec UInt8
deriving DecidableEq

namespace Bytes

def data (bytes : Bytes) : List UInt8 := bytes.vec.toList

theorem data_length_lt (bytes : Bytes) : bytes.data.length < 2 ^ 64 :=
  bytes.vec.length_lt

theorem ext {left right : Bytes} (same : left.data = right.data) :
    left = right := by
  obtain ⟨⟨leftList, leftBound⟩⟩ := left
  obtain ⟨⟨rightList, rightBound⟩⟩ := right
  cases same
  rfl

def empty : Bytes := ⟨⟨[], by decide⟩⟩

end Bytes

theorem RustVec.ext {α : Type} {left right : RustVec α}
    (same : left.toList = right.toList) : left = right := by
  cases left
  cases right
  cases same
  rfl

end RiskManagement
