import RiskManagement.Minieth.Bytes

/-!
# Keccak

The sponge is a third-party function.  Everything here holds for any function
from byte strings to 32 bytes, and a computation keeps the strings it hashed.
-/

namespace RiskManagement

abbrev Keccak := List UInt8 → Bytes32

/-- A value with the byte strings that were hashed to compute it. -/
structure Hashed (α : Type) where
  value : α
  inputs : List (List UInt8)

namespace Hashed

instance : Monad Hashed where
  pure value := ⟨value, []⟩
  bind first next :=
    ⟨(next first.value).value, first.inputs ++ (next first.value).inputs⟩

@[simp]
theorem value_pure {α : Type} (value : α) :
    (pure value : Hashed α).value = value := rfl

@[simp]
theorem inputs_pure {α : Type} (value : α) :
    (pure value : Hashed α).inputs = [] := rfl

@[simp]
theorem value_bind {α β : Type} (first : Hashed α) (next : α → Hashed β) :
    (first >>= next).value = (next first.value).value := rfl

@[simp]
theorem inputs_bind {α β : Type} (first : Hashed α) (next : α → Hashed β) :
    (first >>= next).inputs = first.inputs ++ (next first.value).inputs := rfl

end Hashed

/-- Hashes and notes what was hashed. -/
def keccak256 (keccak : Keccak) (input : List UInt8) : Hashed Bytes32 :=
  ⟨keccak input, [input]⟩

section

variable (keccak : Keccak) (input : List UInt8)

@[simp]
theorem keccak256_value : (keccak256 keccak input).value = keccak input := rfl

@[simp]
theorem keccak256_inputs : (keccak256 keccak input).inputs = [input] := rfl

end

/-- Two weak hashes. -/
def lengthHash : Keccak :=
  fun input => .replicate 32 (.ofNat input.length)

def foldHash : Keccak :=
  fun input => .replicate 32 (input.foldl (fun digest byte =>
    (digest >>> 1) ^^^ (7 * (digest + byte))) 7)

end RiskManagement
