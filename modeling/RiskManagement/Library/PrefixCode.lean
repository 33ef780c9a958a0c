import Mathlib.Data.List.Basic

/-!
# Codes whose words end where they end

An encoding is prefix free when the encoded values can be read off the front
of a longer string.
-/

namespace PrefixCode

variable {α β : Type}

/-- Equal strings that start with encodings of valid values start with the
same value and go on equally. -/
def PrefixFree (Valid : α → Prop) (encode : α → List β) : Prop :=
  ∀ ⦃left right : α⦄ ⦃leftRest rightRest : List β⦄, Valid left → Valid right →
    encode left ++ leftRest = encode right ++ rightRest →
    left = right ∧ leftRest = rightRest

variable {Valid : α → Prop} {encode : α → List β}

theorem PrefixFree.injective (prefixFree : PrefixFree Valid encode)
    {left right : α} (leftValid : Valid left) (rightValid : Valid right)
    (same : encode left = encode right) : left = right := by
  have padded : encode left ++ [] = encode right ++ [] := by
    rw [same]
  exact (prefixFree leftValid rightValid padded).1

/-- Encodings of one width only have to be injective. -/
theorem prefixFree_of_width (width : Nat)
    (widths : ∀ value, Valid value → (encode value).length = width)
    (injective : ∀ left right, Valid left → Valid right →
      encode left = encode right → left = right) :
    PrefixFree Valid encode := by
  intro left right leftRest rightRest leftValid rightValid same
  have sameWidth : (encode left).length = (encode right).length := by
    rw [widths left leftValid, widths right rightValid]
  obtain ⟨sameCode, sameRest⟩ := List.append_inj same sameWidth
  exact ⟨injective left right leftValid rightValid sameCode, sameRest⟩

end PrefixCode
